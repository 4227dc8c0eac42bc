import PageTemplates.Configuration.Variable
import PageTemplates.Data.Bytes
import PageTemplates.Folder.Walk
import PageTemplates.Yaml.Document

/-!
Loading a configuration. Its layers are, from the lowest to the highest: files of settings in the order
of their patterns, a file of variables, the variables of the process, and overrides.
-/

namespace PageTemplates

/-- Why a configuration cannot be loaded: a file cannot be opened, is no document, or a layer cannot be
merged. -/
inductive LoadFault where
  | unopened (fault : PathFault) (path : Text)
  | notJson (message : Text)
  | notYaml
  | failed (failure : Failure)

/-- What a configuration is loaded from. -/
structure ConfigurationSources where
  patterns : List Text
  leading : Text
  variableFile : Option Text
  surrounding : List Variable
  overrides : Data

namespace Configuration

/-- A text with every line end a line feed. -/
def withLineFeeds : Text → Text
  | .scalar '\r' :: .scalar '\n' :: rest => .scalar '\n' :: withLineFeeds rest
  | .scalar '\r' :: rest => .scalar '\n' :: withLineFeeds rest
  | point :: rest => point :: withLineFeeds rest
  | [] => []

/-- The text of a file. -/
def fileText (disk : Node) (path : Text) : Except LoadFault Text :=
  match disk.readFile path with
  | .error fault => .error (.unopened fault path)
  | .ok bytes =>
    match Text.decode bytes with
    | .ok text => .ok (withLineFeeds text)
    | .error fault => .error (.failed ⟨.decoding, fault.message⟩)

/-- Data that has no entries. -/
def notMapping (className : Text) : LoadFault := .failed (.missingAttribute className "items")

/-- The layer of data, which has to be a mapping. -/
def layerOfData : Data → Except LoadFault Configuration
  | .dict entries => .ok (ofEntries entries)
  | .mapping entries => .ok (ofEntries entries)
  | other => .error (notMapping (Text.ofString other.typeName))

/-- The layer of a YAML document, which has to be a mapping unless it is false. -/
def layerOfDocument (document : Yaml.Document) : Except LoadFault Configuration :=
  match document.tree with
  | .mapping number => .ok ⟨number, document.cells⟩
  | .leaf data => if data.truth then layerOfData data else .ok empty
  | .list items => if items.isEmpty then .ok empty else .error (notMapping "list")
  | .tuple _ => .error (notMapping "tuple")

/-- The layer of a JSON text. -/
def layerOfJson (text : Text) : Except LoadFault Configuration :=
  match Json.read text with
  | .ok document => layerOfData (.ofJson document)
  | .error fault =>
    match fault.failure? with
    | some failure => .error (.failed failure)
    | none => .error (.notJson (fault.message text))

/-- The layer of a YAML text. -/
def layerOfYaml (text : Text) : Except LoadFault Configuration :=
  match Yaml.read text with
  | .ok document => layerOfDocument document
  | .error .malformed => .error .notYaml
  | .error (.failed failure) => .error (.failed failure)

/-- The ending of the name that a path leads to, from its last dot on; a dot at either end starts none. -/
def suffix (path : Text) : Text :=
  let name := (Node.splitLastPart path).2
  match Text.findLast? "." name with
  | some place => if 0 < place && place + 1 < name.length then name.drop place else []
  | none => []

/-- The layer of a file. The ending of its name tells the format; other files are none. -/
def layerOfFile (disk : Node) (path : Text) : Except LoadFault (Option Configuration) := do
  let path := Path.shown path
  let ending := suffix path
  if ending = (".json" : Text) then return some (← layerOfJson (← fileText disk path))
  else if ending = (".yaml" : Text) || ending = (".yml" : Text) then
    return some (← layerOfYaml (← fileText disk path))
  else return none

/-- A configuration with a further layer, or why it cannot be loaded. -/
def withLayer (configuration layer : Configuration) : Except LoadFault Configuration :=
  (configuration.merged layer).mapError .failed

/-- A configuration with the settings of a file. -/
def withFile (disk : Node) (configuration : Configuration) (path : Text) :
    Except LoadFault Configuration := do
  match ← layerOfFile disk path with
  | some layer => configuration.withLayer layer
  | none => return configuration

/-- A configuration with the settings of all files that a pattern matches. -/
def withFiles (disk : Node) (configuration : Configuration) (pattern : Text) :
    Except LoadFault Configuration :=
  (disk.glob pattern).foldlM (withFile disk) configuration

/-- The variables of a file. A path that leads nowhere or to a folder gives none. -/
def fileVariables (disk : Node) (outer : List Variable) (path : Text) :
    Except LoadFault (List Variable) :=
  match disk.find path with
  | .ok (.file _) => do return VariableFile.read outer (← fileText disk path)
  | .error .nameTooLong => .error (.unopened .nameTooLong (Path.shown path))
  | _ => .ok []

/-- The variables of the file of variables, if there is one. -/
def boundVariables (disk : Node) (sources : ConfigurationSources) :
    Except LoadFault (List Variable) :=
  match sources.variableFile with
  | some path => if path.isEmpty then .ok [] else fileVariables disk sources.surrounding path
  | none => .ok []

/-- The layer of overrides; what is false gives none. -/
def overrideLayer (overrides : Data) : Except LoadFault (Option Configuration) :=
  if overrides.truth then (layerOfData overrides).map some else .ok none

/-- Loads a configuration. -/
def load (disk : Node) (sources : ConfigurationSources) : Except LoadFault Configuration := do
  let files ← sources.patterns.foldlM (withFiles disk) empty
  let bound ← boundVariables disk sources
  let set ← (files.withVariables sources.leading (bound ++ sources.surrounding)).mapError .failed
  match ← overrideLayer sources.overrides with
  | some layer => set.withLayer layer
  | none => return set

end Configuration

end PageTemplates
