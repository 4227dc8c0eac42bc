import PageTemplates.Configuration
import PageTemplates.Yaml.Graph
import PageTemplates.Yaml.Scalar

/-!
The tree that a YAML document describes. Every mapping is kept in the cell of its node, so that all places
that refer to the node share it. A mapping can take over the entries of others; its own come behind them
and so prevail.
-/

namespace PageTemplates.Yaml

open PageTemplates.Configuration (Tree Entries Cells)

/-- A document: its tree, and the cells that the tree refers to. -/
structure Document where
  tree : Tree
  cells : Cells

/-- Nodes become part of the tree once; then their entries are in their cells. -/
abbrev Growth := StateT (Array (Option Entries)) Reading

namespace Graph

/-- The node of a number. -/
def node (graph : Graph) (number : Nat) : Node := graph.nodes.getD number default

/-- The key of entries that are taken over from other mappings. -/
def isMerge (graph : Graph) (key : Nat) : Bool := (graph.node key).tag = Tag.ofName "merge"

/-- The key of the entry that stands for a whole mapping. -/
def isValue (graph : Graph) (key : Nat) : Bool := (graph.node key).tag = Tag.ofName "value"

/-- The text of a node. A mapping has the text of its entry that stands for the whole. The first argument
bounds how many mappings lie within one another. -/
def textOf (graph : Graph) : (bound : Nat) → (number : Nat) → Reading Text
  | 0, _ => malformed
  | bound + 1, number =>
    match graph.node number with
    | .scalar _ text => .ok text
    | .mapping _ entries =>
      match entries.find? fun (key, _) => graph.isValue key with
      | some (_, value) => graph.textOf bound value
      | none => malformed
    | .sequence _ _ => malformed

/-- The entries of a node that is a mapping. -/
def entriesOf (graph : Graph) (number : Nat) : Reading (List (Nat × Nat)) :=
  match graph.node number with
  | .mapping _ entries => .ok entries
  | _ => malformed

/-- The entries of a mapping behind those that it takes over: from one mapping, or from several, where
the first prevails. `around` are the mappings that are looked at already; nothing is taken over for them
once more. The first argument bounds how many mappings take over from one another. -/
def allEntries (graph : Graph) :
    (bound : Nat) → (around : List Nat) → (number : Nat) → Reading (List (Nat × Nat))
  | 0, _, _ => malformed
  | bound + 1, around, number => do
    let entries ← graph.entriesOf number
    let (takers, own) := entries.partition fun (key, _) => graph.isMerge key
    if List.contains around number then return own
    let from? (source : Nat) : Reading (List (Nat × Nat)) :=
      graph.allEntries bound (number :: around) source
    let taken ← takers.mapM fun (_, value) =>
      match graph.node value with
      | .mapping _ _ => from? value
      | .sequence _ items => do return (← items.mapM from?).reverse.flatten
      | .scalar _ _ => malformed
    return taken.flatten ++ own

/-- The data of a key, which has to be a scalar. -/
def keyOf (graph : Graph) (number : Nat) : Reading Data := do
  let text ← graph.textOf (graph.nodes.size + 1) number
  if graph.isValue number then return .text text
  match (Tag.name? (graph.node number).tag).bind fun name => Scalar.data? name text with
  | some data => data
  | none => malformed

mutual

/-- The tree of a node. `around` are the nodes that the node is part of; no sequence is part of itself.
The first argument bounds the nesting. -/
def treeOf (graph : Graph) : (bound : Nat) → (around : List Nat) → (number : Nat) → Growth Tree
  | 0, _, _ => throw (.failed .tooDeep)
  | bound + 1, around, number => do
    if List.contains around number then throw (.failed .tooDeep)
    let around := number :: around
    match (Tag.name? (graph.node number).tag) with
    | none => throw .malformed
    | some "map" =>
      if ((← get).getD number none).isNone then
        modify fun cells => cells.setIfInBounds number (some [])
        let entries ← entriesTree graph bound [] number
        modify fun cells => cells.setIfInBounds number (some entries)
      return .mapping number
    | some "set" => do
      let entries ← entriesTree graph bound around number
      return .leaf (.set (entries.map Prod.fst))
    | some "seq" =>
      match graph.node number with
      | .sequence _ items => return .list (← itemTrees graph bound around items)
      | _ => throw .malformed
    | some "omap" => return .list (← pairTrees graph bound around number)
    | some "pairs" => return .list (← pairTrees graph bound around number)
    | some name =>
      let text ← graph.textOf (graph.nodes.size + 1) number
      match Scalar.data? name text with
      | some data => return .leaf (← data)
      | none => throw .malformed

/-- The entries of a mapping as trees. -/
def entriesTree (graph : Graph) :
    (bound : Nat) → (around : List Nat) → (number : Nat) → Growth Entries
  | 0, _, _ => throw (.failed .tooDeep)
  | bound + 1, around, number => do
    let entries ← graph.allEntries (graph.nodes.size + 1) [] number
    entries.foldlM (fun done (key, value) => do
      let name ← graph.keyOf key
      return done.put name (← treeOf graph bound around value)) []

/-- The trees of items. -/
def itemTrees (graph : Graph) :
    (bound : Nat) → (around : List Nat) → (items : List Nat) → Growth (List Tree)
  | 0, _, _ => throw (.failed .tooDeep)
  | bound + 1, around, items => items.mapM (treeOf graph bound around)

/-- The pairs that a sequence of mappings of one entry each describes. -/
def pairTrees (graph : Graph) :
    (bound : Nat) → (around : List Nat) → (number : Nat) → Growth (List Tree)
  | 0, _, _ => throw (.failed .tooDeep)
  | bound + 1, around, number => do
    match graph.node number with
    | .sequence _ items =>
      items.mapM fun item => do
        match ← graph.entriesOf item with
        | [(key, value)] =>
          return .tuple [← treeOf graph bound around key, ← treeOf graph bound around value]
        | _ => throw .malformed
    | _ => throw .malformed

end

/-- The document of a graph. A text without nodes describes nothing. -/
def document (graph : Graph) : Reading Document := do
  match graph.root with
  | none => return ⟨.leaf .none, #[]⟩
  | some root =>
    let start := Array.replicate graph.nodes.size none
    let (tree, cells) ← (graph.treeOf (2 * graph.nodes.size + 2) [] root).run start
    return ⟨tree, cells.map fun entries => entries.getD []⟩

end Graph

/-- Reads a text of one document. -/
def read (text : Text) : Reading Document := do
  (← Graph.ofText text).document

end PageTemplates.Yaml
