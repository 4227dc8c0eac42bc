import PageTemplates.Yaml.Tag
import PageTemplates.Yaml.TokenList

/-!
The nodes of a YAML document. Nodes refer to one another by number, because an alias makes a node part of
several others, and even of itself.
-/

namespace PageTemplates.Yaml

/-- A node with its tag. Collections have the numbers of their parts. -/
inductive Node where
  | scalar (tag text : Text)
  | sequence (tag : Text) (items : List Nat)
  | mapping (tag : Text) (entries : List (Nat × Nat))
  deriving Inhabited

/-- The tag of a node. -/
def Node.tag : Node → Text
  | .scalar tag _ => tag
  | .sequence tag _ => tag
  | .mapping tag _ => tag

/-- A document: its nodes, and the number of the outermost one, if there is one. -/
structure Graph where
  nodes : Array Node
  root : Option Nat

/-- How far tokens are turned into nodes. -/
structure Composition where
  tokens : List Token
  nodes : Array Node
  anchors : List (Text × Nat)
  handles : List (Text × Text)

/-- A step of the composition. -/
abbrev Compose := StateT Composition Reading

namespace Compose

/-- A document that breaks the rules. -/
def reject {Result : Type} : Compose Result := throw .malformed

/-- The next token. -/
def peek : Compose Token := return (← get).tokens.head?.getD .streamEnd

/-- Goes over the next token. -/
def skip : Compose Unit := modify fun state => { state with tokens := state.tokens.drop 1 }

/-- The handles that are always there. -/
def usualHandles : List (Text × Text) := [("!", "!"), ("!!", Tag.standard)]

/-- The tag that a mark stands for. -/
def tagOfMark (mark : TagMark) : Compose Text := do
  match mark.handle with
  | none => return mark.suffix
  | some handle =>
    match (← get).handles.lookup handle with
    | some expansion => return expansion ++ mark.suffix
    | none => reject

/-- Adds a node, which an anchor may name. No anchor names two nodes. -/
def place (anchor : Option Text) (node : Node) : Compose Nat := do
  let state ← get
  let number := state.nodes.size
  let anchors ← match anchor with
    | none => pure state.anchors
    | some name =>
      if (state.anchors.lookup name).isSome then reject else pure ((name, number) :: state.anchors)
  set { state with nodes := state.nodes.push node, anchors := anchors }
  return number

/-- Puts a node in place of another. -/
def replace (number : Nat) (node : Node) : Compose Nat := do
  modify fun state => { state with nodes := state.nodes.setIfInBounds number node }
  return number

/-- The node that nothing is written for. -/
def emptyNode : Compose Nat := place none (.scalar (Tag.ofPlain []) [])

/-- The tag in front of a node that gives none of its own. -/
def tagOr (tag : Option Text) (usual : Text) : Text :=
  match tag with
  | none => usual
  | some tag => if tag = ("!" : Text) then usual else tag

/-- The tag of a scalar: a plain one goes by its form, and so does one whose tag says no more than that it
has one. -/
def scalarTag (tag : Option Text) (text : Text) (plain : Bool) : Text :=
  if plain || tag.isSome then tagOr tag (Tag.ofPlain text) else Tag.ofName "str"

/-- Reads the name and the tag in front of a node, in either order. -/
def properties : Compose (Option Text × Option Text) := do
  match ← peek with
  | .anchor name =>
    skip
    match ← peek with
    | .tag mark =>
      skip
      return (some name, some (← tagOfMark mark))
    | _ => return (some name, none)
  | .tag mark =>
    skip
    match ← peek with
    | .anchor name =>
      skip
      return (some name, some (← tagOfMark mark))
    | _ => return (none, some (← tagOfMark mark))
  | _ => return (none, none)

/-- The node that an alias stands for. -/
def aliased (name : Text) : Compose Nat := do
  skip
  match (← get).anchors.lookup name with
  | some number => return number
  | none => reject

/-- Whether nothing is written in a block collection before a token. -/
def endsBlockPart : Token → Bool
  | .key => true
  | .value => true
  | .blockEnd => true
  | _ => false

/-- Whether nothing is written for an item before a token. -/
def endsItem : Token → Bool
  | .blockEntry => true
  | .blockEnd => true
  | _ => false

/-- Whether nothing is written for an item of a sequence without indentation before a token. -/
def endsLooseItem : Token → Bool
  | .blockEntry => true
  | other => endsBlockPart other

/-- Whether nothing is written in a flow collection before a token, which may be the given end. -/
def endsFlowPart (inMapping : Bool) : Token → Bool
  | .value => true
  | .flowEntry => true
  | .flowSequenceEnd => !inMapping
  | .flowMappingEnd => inMapping
  | _ => false

/-- Whether nothing is written for a value in a flow collection before a token. -/
def endsFlowValue (inMapping : Bool) : Token → Bool
  | .value => false
  | other => endsFlowPart inMapping other

/-- Where a node stands: whether it may be a block collection, and whether it may be a sequence without
indentation. -/
structure Position where
  block : Bool
  loose : Bool

/-- A node, unless a token comes next before which nothing is written. -/
def orEmpty (ends : Token → Bool) (node : Compose Nat) : Compose Nat := do
  if ends (← peek) then emptyNode else node

/-- Goes over the comma between two parts of a flow collection. -/
def separator : Compose Unit := do
  match ← peek with
  | .flowEntry => skip
  | _ => reject

mutual

/-- Reads a node. The first argument bounds the nesting. -/
def node : (bound : Nat) → Position → Compose Nat
  | 0, _ => reject
  | bound + 1, position => do
    match ← peek with
    | .reference name => aliased name
    | _ =>
      let (anchor, tag) ← properties
      let sequence (items : Compose (List Nat)) : Compose Nat := do
        let tag := tagOr tag (Tag.ofName "seq")
        let number ← place anchor (.sequence tag [])
        replace number (.sequence tag (← items))
      let mapping (entries : Compose (List (Nat × Nat))) : Compose Nat := do
        let tag := tagOr tag (Tag.ofName "map")
        let number ← place anchor (.mapping tag [])
        replace number (.mapping tag (← entries))
      match ← peek, position with
      | .blockEntry, ⟨_, true⟩ => sequence (looseItems bound)
      | .scalar text plain, _ =>
        skip
        place anchor (.scalar (scalarTag tag text plain) text)
      | .flowSequenceStart, _ =>
        skip
        sequence (flowItems bound true)
      | .flowMappingStart, _ =>
        skip
        mapping (flowEntries bound true)
      | .blockSequenceStart, ⟨true, _⟩ =>
        skip
        sequence (blockItems bound)
      | .blockMappingStart, ⟨true, _⟩ =>
        skip
        mapping (blockEntries bound)
      | _, _ =>
        if anchor.isSome || tag.isSome then place anchor (.scalar (tagOr tag (Tag.ofPlain [])) [])
        else reject

/-- Reads the items of a block sequence. -/
def blockItems : (bound : Nat) → Compose (List Nat)
  | 0 => reject
  | bound + 1 => do
    match ← peek with
    | .blockEntry =>
      skip
      let item ← orEmpty endsItem (node bound ⟨true, false⟩)
      return item :: (← blockItems bound)
    | .blockEnd =>
      skip
      return []
    | _ => reject

/-- Reads the items of a sequence without indentation. -/
def looseItems : (bound : Nat) → Compose (List Nat)
  | 0 => reject
  | bound + 1 => do
    match ← peek with
    | .blockEntry =>
      skip
      let item ← orEmpty endsLooseItem (node bound ⟨true, false⟩)
      return item :: (← looseItems bound)
    | _ => return []

/-- Reads the entries of a block mapping. -/
def blockEntries : (bound : Nat) → Compose (List (Nat × Nat))
  | 0 => reject
  | bound + 1 => do
    match ← peek with
    | .key =>
      skip
      let key ← orEmpty endsBlockPart (node bound ⟨true, true⟩)
      let value ← match ← peek with
        | .value => do
          skip
          orEmpty endsBlockPart (node bound ⟨true, true⟩)
        | _ => emptyNode
      return (key, value) :: (← blockEntries bound)
    | .blockEnd =>
      skip
      return []
    | _ => reject

/-- Reads the key and value of a flow collection behind the mark of the key. -/
def flowPair (inMapping : Bool) : (bound : Nat) → Compose (Nat × Nat)
  | 0 => reject
  | bound + 1 => do
    let key ← orEmpty (endsFlowPart inMapping) (node bound ⟨false, false⟩)
    match ← peek with
    | .value =>
      skip
      return (key, ← orEmpty (endsFlowValue inMapping) (node bound ⟨false, false⟩))
    | _ => return (key, ← emptyNode)

/-- Reads the items of a flow sequence. -/
def flowItems : (bound : Nat) → (first : Bool) → Compose (List Nat)
  | 0, _ => reject
  | bound + 1, first => do
    match ← peek with
    | .flowSequenceEnd =>
      skip
      return []
    | _ =>
      if !first then separator
      match ← peek with
      | .key =>
        let number ← place none (.mapping (Tag.ofName "map") [])
        skip
        let pair ← flowPair false bound
        let item ← replace number (.mapping (Tag.ofName "map") [pair])
        return item :: (← flowItems bound false)
      | .flowSequenceEnd =>
        skip
        return []
      | _ =>
        let item ← node bound ⟨false, false⟩
        return item :: (← flowItems bound false)

/-- Reads the entries of a flow mapping. -/
def flowEntries : (bound : Nat) → (first : Bool) → Compose (List (Nat × Nat))
  | 0, _ => reject
  | bound + 1, first => do
    match ← peek with
    | .flowMappingEnd =>
      skip
      return []
    | _ =>
      if !first then separator
      match ← peek with
      | .key =>
        skip
        let pair ← flowPair true bound
        return pair :: (← flowEntries bound false)
      | .flowMappingEnd =>
        skip
        return []
      | _ =>
        let key ← node bound ⟨false, false⟩
        let value ← emptyNode
        return (key, value) :: (← flowEntries bound false)

end

/-- Reads the directives before a document. There is one version at most, and no handle twice. -/
def directives : (bound : Nat) → (versioned : Bool) → (handles : List (Text × Text)) → Compose Unit
  | 0, _, _ => reject
  | bound + 1, versioned, handles => do
    match ← peek with
    | .directive directive =>
      skip
      match directive with
      | .version major =>
        if versioned || major != 1 then reject else directives bound true handles
      | .handle handle expansion =>
        if (handles.lookup handle).isSome then reject
        else directives bound versioned ((handle, expansion) :: handles)
      | .other => directives bound versioned handles
    | _ => modify fun state => { state with handles := handles ++ usualHandles }

/-- Goes over the marks that end a document. -/
def skipEnds : (bound : Nat) → Compose Unit
  | 0 => reject
  | bound + 1 => do
    match ← peek with
    | .documentEnd =>
      skip
      skipEnds bound
    | _ => return ()

/-- Whether nothing is written for a document before a token. -/
def endsDocument : Token → Bool
  | .directive _ => true
  | .documentStart => true
  | .documentEnd => true
  | .streamEnd => true
  | _ => false

/-- Reads the outermost node of a document, behind its directives and the mark of its start. -/
def markedDocument (bound : Nat) : Compose Nat := do
  directives bound false []
  match ← peek with
  | .documentStart =>
    skip
    orEmpty endsDocument (node bound ⟨true, false⟩)
  | _ => reject

/-- Reads a text of one document at most. -/
def document (bound : Nat) : Compose (Option Nat) := do
  match ← peek with
  | .streamEnd => return none
  | _ =>
    let marked := match ← peek with
      | .directive _ => true
      | .documentStart => true
      | _ => false
    let root ← if marked then markedDocument bound else node bound ⟨true, false⟩
    skipEnds bound
    match ← peek with
    | .streamEnd => return some root
    | _ => reject

end Compose

/-- The graph of a text. -/
def Graph.ofText (text : Text) : Reading Graph := do
  let tokens ← tokensOf text
  let start : Composition := ⟨tokens, #[], [], Compose.usualHandles⟩
  let (root, state) ← (Compose.document (3 * tokens.length + 3)).run start
  return ⟨state.nodes, root⟩

end PageTemplates.Yaml
