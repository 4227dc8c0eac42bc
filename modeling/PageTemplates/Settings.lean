import PageTemplates.Data.Bytes
import PageTemplates.Renderer
import PageTemplates.Text.Search

/-!
Settings of a renderer, read from the entries of a configuration. Each setting has a default; the
value given is checked when the settings are made, and entries of other names are left out with a
warning.
-/

namespace PageTemplates

/-- The settings of a renderer. -/
structure Settings where
  mode : Mode
  sourceFolder : Data
  root : Data
  extensions : List Data
  autoescape : Bool
  strict : Bool
  sandboxed : Bool
  policyName : Data

namespace Settings

/-- The names of the settings, in order. -/
def names : List String :=
  [ "mode", "source_dir", "root", "extensions", "autoescape", "strict_undefined", "sandbox",
    "sandbox_policy" ]

/-- Whether data is the name of a setting. -/
def isName (data : Data) : Bool := names.any fun name => data.text? = some (Text.ofString name)

/-- The fault of a setting. -/
def invalid (name : String) (reason : Text) : Problem :=
  .fault (.configInvalid (.text ("templates." ++ Text.ofString name)) (.text reason))

/-- The fault of a setting that has to be one of two words. It shows what was given. -/
def unexpected (name : String) (first second : Text) (given : Data) : Problem :=
  match given.represented with
  | .ok shown =>
    invalid name ("expected one of " ++ (Data.tuple [.text first, .text second]).quoted ++ ", got " ++
      shown)
  | .error failure => .failure failure

/-- The mode that data names, in any case of letters. -/
def readMode (given : Data) : Except Problem Mode := do
  let name := Text.lower (← given.printed.mapError .failure)
  match Mode.ofName? name with
  | some mode => .ok mode
  | none => .error (unexpected "mode" "release" "debug" (.text name))

/-- The name of a policy. -/
def readPolicy (given : Data) : Except Problem Data :=
  if given.text? = some "strict" || given.text? = some "permissive" then .ok given
  else .error (unexpected "sandbox_policy" "strict" "permissive" given)

/-- A truth value. -/
def readFlag (name : String) : Data → Except Problem Bool
  | .bool value => .ok value
  | _ => .error (invalid name "expected a boolean")

/-- An extension with a dot in front. -/
def dotted (extension : Data) : Except Failure Data :=
  match extension, extension.text? with
  | _, some text =>
    if Text.startsWith text "." then .ok extension else .ok (.text ("." ++ text))
  | .bytes _, none =>
    .error (.wrongType "startswith first arg must be bytes or a tuple of bytes, not str")
  | other, none => .error (.missingAttribute (Text.ofString other.typeName) "startswith")

/-- The parts of a text between commas, without blanks around them and without empty parts. -/
def commaParts (text : Text) : List Text :=
  ((Text.splitAll "," text).map Text.trim).filter fun part => !part.isEmpty

/-- The parts of a text between commas, each markup where the text is; other data as it is. -/
def separated : Data → Data
  | .text value => .list ((commaParts value).map .text)
  | .markup value => .list ((commaParts value).map .markup)
  | other => other

/-- The extensions that data gives: a text with commas between them, or one by one. -/
def readExtensions (given : Data) : Except Problem (List Data) := do
  let given := separated given
  if !given.truth then .error (invalid "extensions" "at least one extension is required")
  (given.items.bind fun items => items.mapM dotted).mapError .failure

/-- The entry of a name. -/
def given? (entries : List (Data × Data)) (name : String) : Option Data :=
  entries.findSome? fun (key, value) =>
    if key.text? = some (Text.ofString name) then some value else none

/-- The settings that entries give. The mode is checked first, then the extensions, the policy and the
truth values. -/
def ofEntries (entries : List (Data × Data)) : Except Problem Settings := do
  let value (name : String) (default : Data) : Data := (given? entries name).getD default
  let mode ← readMode (value "mode" (.text "release"))
  let extensions ← readExtensions (value "extensions" (.list [.text ".html"]))
  let policyName ← readPolicy (value "sandbox_policy" (.text "strict"))
  let autoescape ← readFlag "autoescape" (value "autoescape" (.bool true))
  let strict ← readFlag "strict_undefined" (value "strict_undefined" (.bool true))
  let sandboxed ← readFlag "sandbox" (value "sandbox" (.bool false))
  return { mode := mode
           sourceFolder := value "source_dir" (.text "web")
           root := value "root" (.text "templates")
           extensions := extensions
           autoescape := autoescape
           strict := strict
           sandboxed := sandboxed
           policyName := policyName }

/-- The order of the kinds of keys that can be compared with one another. -/
def orderClass (key : Data) : String :=
  if key.text?.isSome then "text"
  else if key.magnitude?.isSome then "number"
  else key.className

/-- The first two neighbours that cannot be ordered. -/
def unordered? : List Data → Option (Data × Data)
  | first :: second :: rest =>
    if orderClass first != orderClass second || orderClass first == "NoneType" then
      some (first, second)
    else unordered? (second :: rest)
  | _ => none

/-- The least of numbers, or the first of keys of other kinds. -/
def leastKey (first : Data) (keys : List Data) : Data :=
  keys.foldl (fun least key =>
    match key.magnitude?, least.magnitude? with
    | some one, some other =>
      if Value.compareMagnitudes? one other == some .lt then key else least
    | _, _ => least) first

/-- The warning about keys that are no settings, in order. Keys have to be texts for that. -/
def warning (keys : List Data) : Except Failure (List LogLine) :=
  match keys with
  | [] => .ok []
  | first :: rest =>
    match unordered? keys with
    | some (one, other) =>
      .error (.unordered "<" (Text.ofString other.typeName) (Text.ofString one.typeName))
    | none =>
      match keys.mapM Data.text? with
      | some texts =>
        .ok [⟨.warning, "Ignoring unknown template config keys: " ++
          Text.join ", " (Text.sorted texts)⟩]
      | none =>
        .error (.wrongType ("sequence item 0: expected str instance, " ++
          Text.ofString (leastKey first rest).typeName ++ " found"))

/-- Each key once. -/
def distinct (keys : List Data) : List Data :=
  keys.foldl (fun so key => if so.any fun other => other.equals key then so else so ++ [key]) []

/-- The settings that data gives, with the warnings on the way. -/
def ofData (data : Data) : List LogLine × Except Problem Settings :=
  let warned : Except Failure (List LogLine) := do
    let keys ← data.items
    match keys.findSome? Data.unhashable? with
    | some name => .error (.unhashable (Text.ofString name))
    | none => warning (distinct (keys.filter fun key => !isName key))
  match warned with
  | .error failure => ([], .error (.failure failure))
  | .ok lines =>
    match data with
    | .dict entries => (lines, ofEntries entries)
    | .mapping entries => (lines, ofEntries entries)
    | other =>
      (lines, .error (.failure (.missingAttribute (Text.ofString other.typeName) "items")))

/-- The settings by name. -/
def entries (settings : Settings) : List (String × Data) :=
  [ ("mode", .text (Text.ofString settings.mode.name)),
    ("source_dir", settings.sourceFolder),
    ("root", settings.root),
    ("extensions", .list settings.extensions),
    ("autoescape", .bool settings.autoescape),
    ("strict_undefined", .bool settings.strict),
    ("sandbox", .bool settings.sandboxed),
    ("sandbox_policy", settings.policyName) ]

/-- The entries that give the settings. -/
def written (settings : Settings) : List (Data × Data) :=
  settings.entries.map fun (name, value) => (.text (Text.ofString name), value)

/-- The settings as data. -/
def toData (settings : Settings) : Data := .dict settings.written

/-- Whether settings name the permissive policy. -/
def permissive (settings : Settings) : Bool := settings.policyName.text? = some "permissive"

/-- The policy that settings ask for. -/
def policy? (settings : Settings) : Option Policy :=
  if settings.sandboxed then some (if settings.permissive then .permissive else .strict) else none

/-- The folder that settings name, which only a text can be. -/
def folderSource (settings : Settings) : Except Failure Source :=
  match settings.sourceFolder with
  | .bytes _ =>
    .error (.wrongType ("argument should be a str object or an os.PathLike object returning str, " ++
      "not <class 'bytes'>"))
  | folder =>
    match folder.text? with
    | some root => .ok (.folder root)
    | none =>
      .error (.wrongType ("expected str, bytes or os.PathLike object, not " ++
        Text.ofString folder.typeName))

/-- The options that settings amount to, with a table of functions. -/
def options (settings : Settings) (table : FunctionTable) : RendererOptions where
  table := table
  policy := settings.policy?
  mode := settings.mode
  root := settings.root
  extensions := settings.extensions.filterMap Data.text?
  autoescape := settings.autoescape
  strict := settings.strict

end Settings

end PageTemplates
