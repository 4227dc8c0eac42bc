import PageTemplates.Data.Bytes
import PageTemplates.Path
import PageTemplates.Text.Quoted
import PageTemplates.Text.Utf8

/-!
Folders: trees of files as a host keeps them, with the ways in which a path can fail to lead to a file.
A path is followed part by part from a folder; the first part that leads nowhere decides the failure.
-/

namespace PageTemplates

/-- A file with its content, or a folder with its entries by name. -/
inductive Node where
  | file (content : Bytes)
  | folder (entries : List (Text × Node))
  deriving Inhabited

/-- Why a path leads nowhere. -/
inductive PathFault where
  | missing
  | notFolder
  | isFolder
  | nameTooLong
  deriving DecidableEq

namespace PathFault

/-- The number and wording of a fault. -/
def wording : PathFault → Nat × String
  | .missing => (2, "No such file or directory")
  | .notFolder => (20, "Not a directory")
  | .isFolder => (21, "Is a directory")
  | .nameTooLong => (36, "File name too long")

/-- The message of a fault for a path. -/
def message (fault : PathFault) (path : Text) : Text :=
  let (number, words) := fault.wording
  "[Errno " ++ Text.ofNat number ++ "] " ++ Text.ofString words ++ ": " ++ Text.quoted path

end PathFault

namespace Node

/-- The folder without entries. -/
def empty : Node := .folder []

/-- The entry of a name. -/
def child? (name : Text) : Node → Option Node
  | .file _ => none
  | .folder entries => entries.lookup name

/-- Whether a node is a folder. -/
def isFolder : Node → Bool
  | .file _ => false
  | .folder _ => true

/-- How many bytes a text takes in a path; a lone surrogate stands for one byte. -/
def byteCount (text : Text) : Nat :=
  (text.flatMap fun point =>
    match point with
    | .scalar character => Text.encodeChar character
    | .surrogate _ => [0]).length

/-- The longest name of an entry, in bytes. -/
def longestName : Nat := 255

/-- The longest path, in bytes. -/
def longestPath : Nat := 4095

/-- Follows steps from the last of a chain of nested folders. Above the first folder there is a
folder of which nothing else is known. -/
def follow : (steps : List Text) → (chain : List Node) → Except PathFault Node
  | [], node :: _ => .ok node
  | [], [] => .ok empty
  | step :: steps, chain =>
    match chain with
    | .file _ :: _ => .error .notFolder
    | [] => if step = Path.above then follow steps [] else .error .missing
    | node :: outer =>
      if step = Path.above then follow steps outer
      else if longestName < byteCount step then .error .nameTooLong
      else
        match node.child? step with
        | some entry => follow steps (entry :: node :: outer)
        | none => .error .missing

/-- The node that a path leads to from a folder. Of what lies outside the folder only the root of all
folders is known. -/
def find (root : Node) (path : Text) : Except PathFault Node :=
  if longestPath < byteCount path then .error .nameTooLong
  else if Path.isAbsolute path then
    if (Path.steps path).isEmpty then .ok empty else .error .missing
  else follow (Path.steps path) [root]

/-- The content of the file that a path leads to. -/
def readFile (root : Node) (path : Text) : Except PathFault Bytes := do
  match ← root.find path with
  | .file content => .ok content
  | .folder _ => .error .isFolder

/-- The path of an entry of a folder. -/
def entryPath (folder name : Text) : Text :=
  if folder.isEmpty || folder.getLast? = some Path.slash then folder ++ name
  else folder ++ [Path.slash] ++ name

/-- The entries of a node; a file has none. -/
def entries : Node → List (Text × Node)
  | .file _ => []
  | .folder entries => entries

mutual

/-- The paths of all files below a node, each after what leads to the node. The host is asked for a
folder by its `place`, and a folder whose place is too long is passed over. -/
def filePaths (place leading : Text) : Node → List Text
  | .file _ => [leading]
  | .folder entries =>
    if longestPath < byteCount place then [] else entryPaths place leading entries

/-- The paths of all files below entries. -/
def entryPaths (place leading : Text) : List (Text × Node) → List Text
  | [] => []
  | (name, node) :: entries =>
    filePaths (entryPath place name) (entryPath leading name) node ++
      entryPaths place leading entries

end

/-- The paths of all files in the folder at a place, in order. -/
def listing (place : Text) (node : Node) : List Text :=
  Text.sorted (entryPaths place [] node.entries)

/-- Puts an entry in place of the one of the same name, or behind all others. -/
def putEntry (name : Text) (node : Node) : List (Text × Node) → List (Text × Node)
  | [] => [(name, node)]
  | (other, old) :: rest =>
    if other = name then (name, node) :: rest else (other, old) :: putEntry name node rest

/-- Puts a node where steps lead to, and makes the folders on the way. -/
def insert : (steps : List Text) → (added : Node) → Node → Node
  | [], added, _ => added
  | step :: steps, added, node =>
    let entries := match node with
      | .folder entries => entries
      | .file _ => []
    .folder (putEntry step (insert steps added ((entries.lookup step).getD empty)) entries)

/-- Writes a file, and makes the folders on the way. -/
def write (root : Node) (path : Text) (content : Bytes) : Node :=
  insert (Path.steps path) (.file content) root

/-- Makes a folder and those on the way; one that is there stays. -/
def makeFolder (root : Node) (path : Text) : Node :=
  match root.find path with
  | .ok _ => root
  | .error _ => insert (Path.steps path) empty root

/-- Takes away what steps lead to. -/
def remove : (steps : List Text) → Node → Node
  | [], node => node
  | [step], node =>
    match node with
    | .folder entries => .folder (entries.filter fun (name, _) => name != step)
    | .file content => .file content
  | step :: steps, node =>
    match node with
    | .folder entries =>
      match entries.lookup step with
      | some inner => .folder (putEntry step (remove steps inner) entries)
      | none => .folder entries
    | .file content => .file content

/-- Takes away the file that a path leads to. -/
def deleteFile (root : Node) (path : Text) : Except PathFault Node := do
  match ← root.find path with
  | .file _ => .ok (remove (Path.steps path) root)
  | .folder _ => .error .isFolder

/-- Takes away the folder that a path leads to, with all that is in it. -/
def deleteFolder (root : Node) (path : Text) : Except PathFault Node := do
  match ← root.find path with
  | .folder _ => .ok (remove (Path.steps path) root)
  | .file _ => .error .notFolder

end Node

/-- Whether the bytes of a path can hold a point: a lone surrogate can if it stands for one byte. -/
def Path.isStorable : CodePoint → Bool
  | .scalar _ => true
  | .surrogate offset => 0x480 ≤ offset.val && offset.val < 0x500

/-- A path with the lone surrogates that stand for bytes replaced, except in a run after one that
does not. -/
def Path.withoutBytes : (broken : Bool) → Text → Text
  | _, [] => []
  | _, .scalar character :: rest => .scalar character :: withoutBytes false rest
  | broken, point :: rest =>
    if !broken && isStorable point then .scalar 'x' :: withoutBytes false rest
    else point :: withoutBytes true rest

/-- A path in a form that can be looked up: it has bytes, and none of them is zero. -/
def Path.checked (path : Text) : Except Failure Text :=
  match Text.encode (Path.withoutBytes false path) with
  | .error fault => .error ⟨.encoding, fault.message⟩
  | .ok _ =>
    if List.contains path (.scalar '\x00') then .error (.wrongValue "embedded null byte")
    else .ok path

end PageTemplates
