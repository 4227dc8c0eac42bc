import PageTemplates.Folder
import PageTemplates.Source.Pattern
import PageTemplates.Text.Search

/-!
Files that are found in folders.

A file pattern is a path whose parts may be patterns. Each part is matched by itself against the entries of
the folders that the parts before it lead to. Entries whose names start with a dot are matched only by
patterns that do so too.

A walk finds all files of a folder without recursion. The folders that are still to be looked into lie on
a pile, each with what its paths begin with. Looking into a folder puts those in it on the pile.
-/

namespace PageTemplates

namespace Node

/-- Whether a text has a character that makes it a pattern. -/
def isPattern (text : Text) : Bool :=
  text.any fun point => point = .scalar '*' || point = .scalar '?' || point = .scalar '['

/-- What leads to the last part of a path, and the last part. -/
def splitLastPart (path : Text) : Text × Text :=
  let last := (path.reverse.takeWhile fun point => point != Path.slash).reverse
  let before := path.take (path.length - last.length)
  let head := Text.dropEnd (fun point => point = Path.slash) before
  (if head.isEmpty then before else head, last)

/-- Whether a path leads anywhere. -/
def hasPath (root : Node) (path : Text) : Bool :=
  !path.isEmpty && (root.find path).toOption.isSome

/-- Whether a path leads to a folder. -/
def hasFolder (root : Node) (path : Text) : Bool :=
  !path.isEmpty && ((root.find path).toOption.map isFolder).getD false

/-- Whether a name is hidden from patterns. -/
def isHidden (name : Text) : Bool := name.head? = some (.scalar '.')

/-- The names in a folder that match a pattern; only those of folders, if only these are wanted. -/
def matchingNames (root : Node) (folder pattern : Text) (onlyFolders : Bool) : List Text :=
  match root.find (if folder.isEmpty then Path.here else folder) with
  | .ok (.folder entries) =>
    (entries.filter fun (name, node) =>
      (!onlyFolders || node.isFolder) && (isHidden pattern || !isHidden name) &&
        Pattern.isMatch (.ofText pattern) name).map Prod.fst
  | _ => []

/-- The last part of a path, if it is there in a folder. An empty part asks for the folder itself. -/
def exactNames (root : Node) (folder name : Text) : List Text :=
  if name.isEmpty then if root.hasFolder folder then [name] else []
  else if root.hasPath (entryPath folder name) then [name] else []

/-- The paths that a pattern matches. The first argument bounds how many parts the pattern has. -/
def matching (root : Node) : (bound : Nat) → (pattern : Text) → (onlyFolders : Bool) → List Text
  | 0, _, _ => []
  | bound + 1, pattern, onlyFolders =>
    let (leading, last) := splitLastPart pattern
    if !isPattern pattern then
      if last.isEmpty then if root.hasFolder leading then [pattern] else []
      else if root.hasPath pattern then [pattern] else []
    else if leading.isEmpty then root.matchingNames leading last onlyFolders
    else
      let found :=
        if leading != pattern && isPattern leading then matching root bound leading true
        else [leading]
      found.flatMap fun place =>
        (if isPattern last then root.matchingNames place last onlyFolders
          else root.exactNames place last).map (entryPath place)

/-- The paths that a pattern matches, in order. -/
def glob (root : Node) (pattern : Text) : List Text :=
  Text.sorted (root.matching (pattern.length + 1) pattern false)

mutual

/-- How many folders a node is made of. -/
def folderCount : Node → Nat
  | .file _ => 0
  | .folder entries => entriesFolderCount entries + 1

/-- How many folders entries are made of. -/
def entriesFolderCount : List (Text × Node) → Nat
  | [] => 0
  | (_, node) :: entries => folderCount node + entriesFolderCount entries

end

end Node

/-- A walk on its way: the folders on the pile, the last one first, and the files found so far. -/
structure Walk where
  pending : List (List (Text × Node) × Text)
  found : List Text

namespace Walk

/-- The walk through a folder before the first step. -/
def start (node : Node) : Walk := ⟨[(node.entries, [])], []⟩

/-- Notes an entry of a folder: a folder on the pile, a file as found. -/
def note (leading : Text) (walk : Walk) : Text × Node → Walk
  | (name, .folder entries) =>
    { walk with pending := (entries, leading ++ name ++ [Path.slash]) :: walk.pending }
  | (name, .file _) => { walk with found := walk.found ++ [leading ++ name] }

/-- Looks into the folder on top of the pile. -/
def next (walk : Walk) : Walk :=
  match walk.pending with
  | [] => walk
  | (entries, leading) :: pending => entries.foldl (note leading) { walk with pending := pending }

/-- How many folders the folders of a pile are made of. -/
def pileCount : List (List (Text × Node) × Text) → Nat
  | [] => 0
  | (entries, _) :: pending => Node.entriesFolderCount entries + 1 + pileCount pending

/-- How many folders a walk still has to look into. -/
def ahead (walk : Walk) : Nat := pileCount walk.pending

theorem ahead_noting (leading : Text) (entries : List (Text × Node)) (walk : Walk) :
    (entries.foldl (note leading) walk).ahead = Node.entriesFolderCount entries + walk.ahead := by
  induction entries generalizing walk with
  | nil => simp [Node.entriesFolderCount]
  | cons entry rest ih =>
      obtain ⟨name, node⟩ := entry
      rw [List.foldl_cons, ih, Node.entriesFolderCount]
      cases node with
      | file content => simp [note, ahead, Node.folderCount]
      | folder inner =>
          simp only [note, ahead, pileCount, Node.folderCount]
          omega

theorem ahead_next (walk : Walk) : walk.next.ahead = walk.ahead - 1 := by
  obtain ⟨pending, found⟩ := walk
  cases pending with
  | nil => rfl
  | cons top pending =>
      obtain ⟨entries, leading⟩ := top
      rw [next, ahead_noting]
      simp only [ahead, pileCount]
      omega

/-- Goes on until the pile is empty. -/
def run : Walk → List Text
  | ⟨[], found⟩ => found
  | ⟨top :: pending, found⟩ => run (next ⟨top :: pending, found⟩)
termination_by walk => walk.ahead
decreasing_by
  rw [ahead_next]
  refine Nat.sub_lt ?_ Nat.one_pos
  simp only [ahead, pileCount]
  omega

/-- The paths of all files in a folder, in order. -/
def listing (node : Node) : List Text := Text.sorted (start node).run

end Walk

end PageTemplates
