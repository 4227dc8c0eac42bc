import PageTemplates.Fault
import PageTemplates.Folder.Walk
import PageTemplates.Source.Pattern

/-!
Sources: where templates are read from. A source is a mapping of paths to bytes, a folder, or a folder
inside a package. Folders and packages are looked up anew each time, in what the host keeps at that
moment.
-/

namespace PageTemplates

/-- A source. The folders of packages are shown below `home`. -/
inductive Source where
  | mapping (files : List (Text × Bytes))
  | folder (root : Text)
  | bundle (home package path : Text)

/-- What the name of a package leads to: a package, a folder that is one without saying so, or
something else that can be imported. -/
inductive Imported where
  | package (path : List Text)
  | folder (path : List Text)
  | other

namespace Source

/-- The bytes of a file given as text or as data. -/
def fileContent : Data → Except Failure Bytes
  | .text value => (Text.encode value).mapError fun fault => ⟨.encoding, fault.message⟩
  | .markup value => (Text.encode value).mapError fun fault => ⟨.encoding, fault.message⟩
  | other => other.toBytes

/-- The source of files by path. -/
def ofFiles (files : List (Text × Data)) : Except Failure Source := do
  let files ← files.mapM fun (path, content) => do return (path, ← fileContent content)
  return .mapping files

/-- The source of a folder inside a package, whose path stands without slashes around it. -/
def ofPackage (home package path : Text) : Source :=
  let trimmed := path.dropWhile (· = Path.slash)
  .bundle home package (trimmed.reverse.dropWhile (· = Path.slash)).reverse

/-- The quoted form of a source. -/
def quoted : Source → Text
  | .mapping files => "MappingSource(" ++ Text.ofNat files.length ++ " files)"
  | .folder root => "DirectorySource(" ++ Text.quoted (Path.shown root) ++ ")"
  | .bundle _ package path =>
    "PackageSource(" ++ Text.quoted package ++ ", " ++ Text.quoted path ++ ")"

/-- The fault of a path that cannot be read or listed. -/
def unreadable (path reason : Text) : Problem := .fault (.sourceRead (.text path) (.text reason))

/-- Whether a path leads to a folder. A path that cannot be looked up does not; one with too long a
name fails. -/
def leadsToFolder (disk : Node) (path shown : Text) : Except Failure Bool :=
  match Path.checked path with
  | .error _ => .ok false
  | .ok path =>
    match disk.find path with
    | .ok node => .ok node.isFolder
    | .error .nameTooLong => .error ⟨.system, PathFault.message .nameTooLong shown⟩
    | .error _ => .ok false

/-- The listing of the folder that a path leads to. -/
def folderListing (listing : Node → List Text) (disk : Node) (path shown : Text) (missing : Problem) :
    Except Problem (List Text) := do
  if ← (leadsToFolder disk path shown).mapError .failure then
    match disk.find path with
    | .ok node => .ok (listing node)
    | .error _ => .error missing
  else .error missing

/-- The bytes of the file that a path leads to; `told` is the path that faults name. -/
def fileBytes (disk : Node) (path shown told : Text) : Except Problem Bytes := do
  let _ ← (Path.checked shown).mapError .failure
  match disk.readFile path with
  | .ok content => .ok content
  | .error fault => .error (unreadable told (fault.message shown))

/-- The name of the file that makes a folder a package. -/
def packageMark : Text := "__init__.py"

/-- What a name leads to inside a folder. -/
def importFrom (path : List Text) (name : Text) (node : Node) : Option Imported :=
  let isModule := match node.child? (name ++ ".py") with
    | some (.file _) => true
    | _ => false
  match node.child? name with
  | some (.folder entries) =>
    let isPackage := match entries.lookup packageMark with
      | some (.file _) => true
      | _ => false
    if isPackage then some (.package (path ++ [name]))
    else if isModule then some .other
    else some (.folder (path ++ [name]))
  | _ => if isModule then some .other else none

/-- The failure of a package that is not there. -/
def noModule (name : Text) : Failure := ⟨.importing, "No module named " ++ Text.quoted name⟩

/-- Imports the parts of a name one inside the other; `outer` is the name of what has been imported. -/
def importParts (disk : Node) : (outer : Text) → Imported → List Text → Except Failure Imported
  | _, found, [] => .ok found
  | outer, found, part :: parts => do
    let name := outer ++ "." ++ part
    let path ← match found with
      | .package path => pure path
      | .folder path => pure path
      | .other =>
        .error ⟨.importing, (noModule name).message ++ "; " ++ Text.quoted outer ++
          " is not a package"⟩
    match disk.find (Path.ofParts path) with
    | .ok node =>
      match importFrom path part node with
      | some inner => importParts disk name inner parts
      | none => .error (noModule name)
    | .error _ => .error (noModule name)

/-- Imports a package by its name. -/
def importNamed (disk : Node) (name : Text) : Except Failure Imported :=
  if name.isEmpty then .error (.wrongValue "Empty module name")
  else
    match Text.splitAll "." name with
    | [] => .error (noModule name)
    | first :: parts =>
      if first.isEmpty then
        .error (.wrongType ("the 'package' argument is required to perform a relative import for " ++
          Text.quoted name))
      else
        match importFrom [] first disk with
        | some found => importParts disk first found parts
        | none => .error (noModule first)

/-- The folder of a package, and whether the folder is a package without saying so. -/
def packageFolder (disk : Node) (package : Text) : Except Problem (List Text × Bool) :=
  match importNamed disk package with
  | .ok (.package path) => .ok (path, false)
  | .ok (.folder path) => .ok (path, true)
  | .ok .other => .error (unreadable package (Text.quoted package ++ " is not a package"))
  | .error failure =>
    if failure.cause = .importing || failure.cause = .wrongType then
      .error (unreadable package failure.message)
    else .error (.failure failure)

/-- A path below the folder of packages as messages show it. -/
def shownBelow (home path : Text) : Text := Path.shown (home ++ [Path.slash] ++ path)

/-- The paths of all files of a source, in order. -/
def list (disk : Node) : Source → Except Problem (List Text)
  | .mapping files => .ok (Text.sorted (files.map Prod.fst))
  | .folder root =>
    let shown := Path.shown root
    folderListing (Node.listing shown) disk shown shown
      (unreadable shown "directory does not exist")
  | .bundle home package path => do
    let (base, _) ← packageFolder disk package
    let inside := Path.ofParts (base ++ [path])
    folderListing Walk.listing disk inside (shownBelow home inside)
      (unreadable (package ++ ":" ++ path) "resource directory does not exist")

/-- The bytes of a file of a source. -/
def read (disk : Node) (path : Text) : Source → Except Problem Bytes
  | .mapping files =>
    match files.lookup path with
    | some content => .ok content
    | none => .error (unreadable path "no such file")
  | .folder root =>
    let shown := Path.joined (Path.shown root) path
    fileBytes disk shown shown path
  | .bundle home package inner => do
    let (base, isBare) ← packageFolder disk package
    let names := Path.parts path
    if isBare && inner.isEmpty && names.length != 1 then
      .error (.failure (.wrongType ("MultiplexedPath.joinpath() takes 2 positional arguments but " ++
        Text.ofNat (names.length + 1) ++ " were given")))
    else
      let inside := Path.ofParts (base ++ [inner, path])
      fileBytes disk inside (shownBelow home inside) (package ++ ":" ++ path)

/-- The paths of a source that match a pattern. -/
def glob (disk : Node) (pattern : Text) (source : Source) : Except Problem (List Text) := do
  return Pattern.select pattern (← source.list disk)

/-- The text of a file of a source. -/
def readText (disk : Node) (path : Text) (source : Source) : Except Problem Text := do
  let content ← source.read disk path
  match Text.decode content with
  | .ok text => .ok text
  | .error fault => .error (unreadable path ("not valid UTF-8: " ++ fault.message))

end Source

end PageTemplates
