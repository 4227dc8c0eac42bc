import PageTemplates.Data.Equal
import PageTemplates.Failure
import PageTemplates.Text.Search

/-!
Configurations: trees of settings that are put together layer by layer. A layer is a configuration
itself. Merging goes down where both layers have a mapping and replaces everything else.

Every mapping is kept in a cell, and what holds the mapping refers to the cell. So a mapping may stand
in several places at once, and a change at one of them shows at all. Merging puts the mappings of a
layer into the configuration as they are.
-/

namespace PageTemplates

namespace Configuration

/-- A setting. A mapping is the one in a cell. -/
inductive Tree where
  | leaf (data : Data)
  | list (items : List Tree)
  | tuple (items : List Tree)
  | mapping (cell : Nat)
  deriving Inhabited

/-- The entries of a mapping, in order. -/
abbrev Entries := List (Data × Tree)

/-- The mappings. -/
abbrev Cells := Array Entries

namespace Entries

/-- The value of a key. -/
def get? (key : Data) : Entries → Option Tree
  | [] => none
  | (other, value) :: rest => if other.equals key then some value else get? key rest

/-- Puts a value in place of the one of an equal key, or behind all others. -/
def put (key : Data) (value : Tree) : Entries → Entries
  | [] => [(key, value)]
  | (other, old) :: rest =>
    if other.equals key then (other, value) :: rest else (other, old) :: put key value rest

end Entries

namespace Cells

/-- The entries of the mapping in a cell. -/
def entries (cells : Cells) (number : Nat) : Entries := cells.getD number []

/-- Gives a key of the mapping in a cell a value. -/
def put (cells : Cells) (number : Nat) (key : Data) (value : Tree) : Cells :=
  cells.setIfInBounds number ((cells.entries number).put key value)

end Cells

namespace Tree

mutual

/-- The tree of data. Each dictionary gets a cell of its own; what lies in a list is never merged. -/
def ofData : Data → StateM Cells Tree
  | .dict entries => do
    let entries ← ofEntries entries
    modifyGet fun cells => (.mapping cells.size, cells.push entries)
  | other => return .leaf other

/-- The entries of a dictionary as trees. -/
def ofEntries : List (Data × Data) → StateM Cells Entries
  | [] => return []
  | (key, value) :: rest => do
    let value ← ofData value
    return (key, value) :: (← ofEntries rest)

end

mutual

/-- The data of a tree, with the data of each cell. -/
def toData (cell : Nat → Data) : Tree → Data
  | .leaf data => data
  | .list items => .list (itemsData cell items)
  | .tuple items => .tuple (itemsData cell items)
  | .mapping number => cell number

/-- The data of each item. -/
def itemsData (cell : Nat → Data) : List Tree → List Data
  | [] => []
  | item :: items => toData cell item :: itemsData cell items

end

mutual

/-- A tree with its cells numbered from a later number on. -/
def shifted (count : Nat) : Tree → Tree
  | .leaf data => .leaf data
  | .list items => .list (shiftedItems count items)
  | .tuple items => .tuple (shiftedItems count items)
  | .mapping number => .mapping (number + count)

/-- Each item with its cells numbered from a later number on. -/
def shiftedItems (count : Nat) : List Tree → List Tree
  | [] => []
  | item :: items => shifted count item :: shiftedItems count items

end

/-- Whether a tree is a mapping. -/
def isMapping : Tree → Bool
  | .mapping _ => true
  | _ => false

/-- The entries of a mapping. -/
def entries? (cells : Cells) : Tree → Option Entries
  | .mapping number => some (cells.entries number)
  | _ => none

/-- What a path of keys leads to. -/
def at? (cells : Cells) : (path : List Data) → Tree → Option Tree
  | [], tree => some tree
  | key :: path, tree =>
    match (tree.entries? cells).bind (Entries.get? key) with
    | some value => at? cells path value
    | none => none

end Tree

/-- Entries with their cells numbered from a later number on. -/
def Entries.shifted (count : Nat) (entries : Entries) : Entries :=
  entries.map fun (key, value) => (key, value.shifted count)

/-- The failure of a mapping that gets further entries while it is gone through. -/
def changedSize : Failure := ⟨.failed, "dictionary changed size during iteration"⟩

/-- Merges a value into the mapping of a cell: into the value that the key has, if both are mappings, and
in its place otherwise. `deeper` merges the mapping of one cell into that of another. -/
def mergeEntry (deeper : Nat → Nat → Cells → Except Failure Cells) (target : Nat) (key : Data)
    (value : Tree) (cells : Cells) : Except Failure Cells :=
  match (cells.entries target).get? key, value with
  | some (.mapping old), .mapping new => deeper new old cells
  | _, _ => .ok (cells.put target key value)

/-- Merges the entries of one cell into another, one after the other. `left` of them are still to come.
The entries are read anew each time, since they may be among those that change; their number is `size`
throughout. -/
def mergeEntries (deeper : Nat → Nat → Cells → Except Failure Cells) (source target size : Nat) :
    (left : Nat) → Cells → Except Failure Cells
  | 0, cells =>
    if (cells.entries source).length = size then .ok cells else .error changedSize
  | left + 1, cells =>
    if (cells.entries source).length = size then
      match (cells.entries source)[size - (left + 1)]? with
      | some (key, value) =>
        (mergeEntry deeper target key value cells).bind
          (mergeEntries deeper source target size left)
      | none => .ok cells
    else .error changedSize

/-- Merges the mapping of one cell into that of another. The first argument bounds how deep mappings that
are merged lie within one another. -/
def mergeCell : (bound : Nat) → (source target : Nat) → Cells → Except Failure Cells
  | 0, _, _, _ => .error .tooDeep
  | bound + 1, source, target, cells =>
    let size := (cells.entries source).length
    mergeEntries (mergeCell bound) source target size size cells

/-- How deep mappings may lie within one another when they are merged. -/
def depthLimit : Nat := 1000

/-- Gives the setting that a path of names leads to a value. What is not a mapping on the way is
replaced by one. -/
def assign (value : Data) : (path : List Text) → (target : Nat) → Cells → Cells
  | [], _, cells => cells
  | [name], target, cells =>
    let (value, cells) := (Tree.ofData value).run cells
    cells.put target (.text name) value
  | name :: path, target, cells =>
    match (cells.entries target).get? (.text name) with
    | some (.mapping inner) => assign value path inner cells
    | _ =>
      let opened : Cells := cells.push []
      assign value path cells.size (opened.put target (.text name) (.mapping cells.size))

end Configuration

/-- A configuration: its cells, and the number of the outermost mapping. -/
structure Configuration where
  root : Nat
  cells : Configuration.Cells
  deriving Inhabited

namespace Configuration

/-- The configuration without settings. -/
def empty : Configuration := ⟨0, #[[]]⟩

/-- The configuration of the entries of a dictionary. -/
def ofEntries (entries : List (Data × Data)) : Configuration :=
  let (entries, cells) := (Tree.ofEntries entries).run #[]
  ⟨cells.size, cells.push entries⟩

/-- A configuration beside the cells of a layer, which are numbered behind its own. -/
def beside (configuration layer : Configuration) : Cells :=
  configuration.cells ++ layer.cells.map (Entries.shifted configuration.cells.size)

/-- A configuration with a further layer merged into it. -/
def merged (configuration layer : Configuration) : Except Failure Configuration :=
  (mergeCell depthLimit (layer.root + configuration.cells.size) configuration.root
    (configuration.beside layer)).map fun cells => ⟨configuration.root, cells⟩

/-- A configuration with a value at a path of names. -/
def assigned (configuration : Configuration) (path : List Text) (value : Data) : Configuration :=
  ⟨configuration.root, assign value path configuration.root configuration.cells⟩

/-- The data in a cell. The first argument bounds how many cells lie within one another. -/
def cellData (cells : Cells) : (bound : Nat) → (number : Nat) → Data
  | 0, _ => .dict []
  | bound + 1, number =>
    .dict ((cells.entries number).map fun (key, value) =>
      (key, value.toData (cellData cells bound)))

/-- The data of a setting. -/
def dataOf (configuration : Configuration) (tree : Tree) : Data :=
  tree.toData (cellData configuration.cells (configuration.cells.size + 1))

/-- All settings as data. -/
def toData (configuration : Configuration) : Data :=
  configuration.dataOf (.mapping configuration.root)

/-- The setting that a path of keys leads to. -/
def at? (configuration : Configuration) (path : List Data) : Option Tree :=
  Tree.at? configuration.cells path (.mapping configuration.root)

/-- The data at a path of names between dots. -/
def get? (configuration : Configuration) (path : Text) : Option Data :=
  (configuration.at? ((Text.splitAll "." path).map .text)).map configuration.dataOf

end Configuration

end PageTemplates
