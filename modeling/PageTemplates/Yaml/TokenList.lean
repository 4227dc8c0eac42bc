import PageTemplates.Yaml.ScalarText
import PageTemplates.Yaml.Property

/-!
The tokens of a YAML text. A key is known as one only when the colon behind it is found; until then the
place where its token would stand is kept. Outside of flow collections a column that is larger than that
of the collection around starts a collection, and a smaller one ends collections.
-/

namespace PageTemplates.Yaml

/-- What may turn out to be a key: where its tokens start, whether it has to be one, and where it is in
the text. -/
structure PossibleKey where
  token : Nat
  required : Bool
  place : Nat
  line : Nat
  column : Nat

/-- The longest key, in characters. -/
def longestKey : Nat := 1024

/-- How far a text is turned into tokens. `keys` has the possible key of each level of flow collections,
`indent` is the column of the innermost block collection, and `allowsKey` tells whether a key may start. -/
structure Progress where
  cursor : Cursor
  flow : Nat
  indent : Int
  outer : List Int
  allowsKey : Bool
  keys : List (Nat × PossibleKey)
  tokens : Array Token

namespace Progress

/-- The start of a text. -/
def start (text : Text) : Progress := ⟨.start text, 0, -1, [], true, [], #[]⟩

/-- Adds a token. -/
def push (token : Token) (progress : Progress) : Progress :=
  { progress with tokens := progress.tokens.push token }

/-- Adds a token of a number of characters. -/
def pushNext (token : Token) (count : Nat) (progress : Progress) : Progress :=
  { progress with tokens := progress.tokens.push token, cursor := progress.cursor.skip count }

/-- The column as a number that can be compared with an indentation. -/
def column (progress : Progress) : Int := progress.cursor.column

/-- Whether a flow collection is around. -/
def inFlow (progress : Progress) : Bool := progress.flow != 0

/-- Drops possible keys that are on an earlier line or too long; a required one must not be dropped. -/
def dropStale (progress : Progress) : Reading Progress :=
  let stale (key : PossibleKey) : Bool :=
    key.line != progress.cursor.line || longestKey < progress.cursor.place - key.place
  if progress.keys.any fun (_, key) => stale key && key.required then malformed
  else .ok { progress with keys := progress.keys.filter fun (_, key) => !stale key }

/-- Drops the possible key of the level of flow collections; a required one must not be dropped. -/
def dropKey (progress : Progress) : Reading Progress :=
  match progress.keys.lookup progress.flow with
  | some key =>
    if key.required then malformed
    else
      .ok { progress with keys := progress.keys.filter fun (flow, _) => flow != progress.flow }
  | none => .ok progress

/-- Notes that a key may start here. -/
def noteKey (progress : Progress) : Reading Progress := do
  if !progress.allowsKey then return progress
  let progress ← progress.dropKey
  let key : PossibleKey :=
    { token := progress.tokens.size
      required := !progress.inFlow && progress.indent == progress.column
      place := progress.cursor.place
      line := progress.cursor.line
      column := progress.cursor.column }
  return { progress with keys := (progress.flow, key) :: progress.keys }

/-- Ends the block collections whose columns are larger than a column. -/
def unwind (column : Int) : (outer : List Int) → Progress → Progress
  | [], progress => { progress with outer := [] }
  | before :: outer, progress =>
    if column < progress.indent then
      unwind column outer { progress.push .blockEnd with indent := before }
    else { progress with outer := before :: outer }

/-- Ends block collections, unless a flow collection is around. -/
def unwindTo (column : Int) (progress : Progress) : Progress :=
  if progress.inFlow then progress else unwind column progress.outer progress

/-- Starts a block collection at a column that is larger than that of the one around; `place` is where
among the tokens. -/
def startBlock (token : Token) (column : Int) (place : Nat) (progress : Progress) : Progress :=
  if progress.indent < column then
    { progress with
      outer := progress.indent :: progress.outer
      indent := column
      tokens := progress.tokens.insertIdxIfInBounds place token }
  else progress

/-- Goes over blanks, comments and line ends. A key may start behind a line end, unless a flow collection
is around. -/
def skipBlanks : (bound : Nat) → Progress → Progress
  | 0, progress => progress
  | bound + 1, progress =>
    let cursor := progress.cursor.skipWhile isSpace
    let cursor := if cursor.isAt '#' then cursor.restOfLine.2 else cursor
    if (cursor.head?.map isBreak).getD false then
      skipBlanks bound
        { progress with
          cursor := cursor.lineBreak.2
          allowsKey := progress.allowsKey || !progress.inFlow }
    else { progress with cursor := cursor }

/-- The end of the text. -/
def finish (progress : Progress) : Reading (Array Token) := do
  let progress ← (progress.unwindTo (-1)).dropKey
  return progress.tokens.push .streamEnd

/-- A directive. -/
def directive (progress : Progress) : Reading Progress := do
  let progress ← (progress.unwindTo (-1)).dropKey
  let (directive, cursor) ← Property.readDirective progress.cursor.next
  return { progress.push (.directive directive) with cursor := cursor, allowsKey := false }

/-- A mark between documents. -/
def documentMark (token : Token) (progress : Progress) : Reading Progress := do
  let progress ← (progress.unwindTo (-1)).dropKey
  return { progress.pushNext token 3 with allowsKey := false }

/-- The start of a flow collection. -/
def flowStart (token : Token) (progress : Progress) : Reading Progress := do
  let progress ← progress.noteKey
  return { progress.pushNext token 1 with flow := progress.flow + 1, allowsKey := true }

/-- The end of a flow collection. -/
def flowEnd (token : Token) (progress : Progress) : Reading Progress := do
  let progress ← progress.dropKey
  return { progress.pushNext token 1 with flow := progress.flow - 1, allowsKey := false }

/-- A comma. -/
def flowEntry (progress : Progress) : Reading Progress := do
  let progress ← progress.dropKey
  return { progress.pushNext .flowEntry 1 with allowsKey := true }

/-- A mark that may start a block collection. -/
def blockMark (opening token : Token) (progress : Progress) : Reading Progress := do
  if progress.inFlow then return progress.pushNext token 1
  if !progress.allowsKey then malformed
  return (progress.startBlock opening progress.column progress.tokens.size).pushNext token 1

/-- A hyphen in front of an item. -/
def blockEntry (progress : Progress) : Reading Progress := do
  let progress ← progress.dropKey
  let progress ← progress.blockMark .blockSequenceStart .blockEntry
  return { progress with allowsKey := true }

/-- A question mark in front of a key. -/
def keyMark (progress : Progress) : Reading Progress := do
  let progress ← progress.dropKey
  let progress ← progress.blockMark .blockMappingStart .key
  return { progress with allowsKey := !progress.inFlow }

/-- A colon behind a key, or in front of a value that has none. -/
def valueMark (progress : Progress) : Reading Progress := do
  match progress.keys.lookup progress.flow with
  | some key =>
    let progress : Progress :=
      { progress with
        keys := progress.keys.filter fun (flow, _) => flow != progress.flow
        tokens := progress.tokens.insertIdxIfInBounds key.token .key }
    let progress :=
      if progress.inFlow then progress
      else progress.startBlock .blockMappingStart key.column key.token
    return { progress.pushNext .value 1 with allowsKey := false }
  | none =>
    let progress ← progress.blockMark .blockMappingStart .value
    return { progress with allowsKey := !progress.inFlow }

/-- A part of a node that may start a key: the token and the place behind it. -/
def nodePart (read : Cursor → Reading (Token × Cursor)) (progress : Progress) : Reading Progress := do
  let progress ← progress.noteKey
  let (token, cursor) ← read progress.cursor
  return { progress.push token with cursor := cursor, allowsKey := false }

/-- A block scalar. -/
def blockScalar (folded : Bool) (progress : Progress) : Reading Progress := do
  let progress ← progress.dropKey
  let (text, cursor) ← BlockScalar.read folded progress.indent progress.cursor.next
  return { progress.push (.scalar text false) with cursor := cursor, allowsKey := true }

/-- A plain scalar. -/
def plainScalar (progress : Progress) : Reading Progress := do
  let progress ← progress.noteKey
  let (text, endsLine, cursor) :=
    PlainScalar.read progress.inFlow progress.indent progress.cursor
  return { progress.push (.scalar text true) with cursor := cursor, allowsKey := endsLine }

/-- A quoted scalar. -/
def quotedScalar (double : Bool) : Progress → Reading Progress :=
  nodePart fun cursor => do
    let (text, after) ← QuotedScalar.read double cursor.next
    return (.scalar text false, after)

/-- A name behind an indicator. -/
def named (build : Text → Token) : Progress → Reading Progress :=
  nodePart fun cursor => do
    let (name, after) ← Property.readName cursor.next
    return (build name, after)

/-- A tag. -/
def tagged : Progress → Reading Progress :=
  nodePart fun cursor => do
    let (mark, after) ← Property.readTag cursor
    return (.tag mark, after)

/-- Turns what is next into tokens. -/
def step (progress : Progress) (character : CodePoint) : Reading Progress :=
  let cursor := progress.cursor
  let atMark := cursor.column == 0 && cursor.isAtMark
  let separate := progress.inFlow || endsToken (cursor.peek? 1)
  match character with
  | .scalar '[' => progress.flowStart .flowSequenceStart
  | .scalar '\x7b' => progress.flowStart .flowMappingStart
  | .scalar ']' => progress.flowEnd .flowSequenceEnd
  | .scalar '\x7d' => progress.flowEnd .flowMappingEnd
  | .scalar ',' => progress.flowEntry
  | .scalar '*' => progress.named .reference
  | .scalar '&' => progress.named .anchor
  | .scalar '!' => progress.tagged
  | .scalar '\'' => progress.quotedScalar false
  | .scalar '"' => progress.quotedScalar true
  | _ =>
    if character = .scalar '%' && cursor.column == 0 then progress.directive
    else if character = .scalar '-' && atMark then progress.documentMark .documentStart
    else if character = .scalar '.' && atMark then progress.documentMark .documentEnd
    else if character = .scalar '-' && endsToken (cursor.peek? 1) then progress.blockEntry
    else if character = .scalar '?' && separate then progress.keyMark
    else if character = .scalar ':' && separate then progress.valueMark
    else if character = .scalar '|' && !progress.inFlow then progress.blockScalar false
    else if character = .scalar '>' && !progress.inFlow then progress.blockScalar true
    else if PlainScalar.isStart progress.inFlow cursor then progress.plainScalar
    else malformed

/-- Turns the rest of a text into tokens. The first argument bounds how many steps that takes. -/
def run : (bound : Nat) → Progress → Reading (Array Token)
  | 0, _ => malformed
  | bound + 1, progress => do
    let progress ← (progress.skipBlanks (progress.cursor.rest.length + 1)).dropStale
    let progress := progress.unwindTo progress.column
    match progress.cursor.head? with
    | none => progress.finish
    | some character => run bound (← progress.step character)

end Progress

/-- The tokens of a text. A byte order mark at the start is passed over. -/
def tokensOf (text : Text) : Reading (List Token) := do
  if !text.all isAllowed then malformed
  let progress := Progress.start text
  let progress :=
    if text.head? = some (.scalar '\uFEFF') then { progress with cursor := progress.cursor.next }
    else progress
  return (← progress.run (text.length + 1)).toList

end PageTemplates.Yaml
