import PageTemplates.Markup.Escape
import PageTemplates.Text.Utf8
import PageTemplates.Yaml.Cursor

/-!
Tokens of YAML, and the names and tags in front of nodes. Indentation is made explicit: the start and end
of each block collection are tokens.
-/

namespace PageTemplates.Yaml

/-- A tag as it is written: the handle, unless the tag is written out, and what follows. -/
structure TagMark where
  handle : Option Text
  suffix : Text

/-- A directive. -/
inductive Directive where
  | version (major : Nat)
  | handle (handle expansion : Text)
  | other

/-- A token. A plain scalar is one without quotes that is no block. -/
inductive Token where
  | directive (directive : Directive)
  | documentStart
  | documentEnd
  | streamEnd
  | blockSequenceStart
  | blockMappingStart
  | blockEnd
  | flowSequenceStart
  | flowSequenceEnd
  | flowMappingStart
  | flowMappingEnd
  | blockEntry
  | flowEntry
  | key
  | value
  | reference (name : Text)
  | anchor (name : Text)
  | tag (mark : TagMark)
  | scalar (text : Text) (plain : Bool)
  deriving Inhabited

namespace Property

/-- Reads the name of an anchor or of an alias. -/
def readName (cursor : Cursor) : Reading (Text × Cursor) :=
  let (name, after) := cursor.takeWhile isNamePoint
  if name.isEmpty then malformed
  else if endsToken after.head? || (after.head?.map (isOneOf "?:,]\x7d%@`")).getD false then
    .ok (name, after)
  else malformed

/-- Characters of the text of a tag. -/
def isTagPoint (point : CodePoint) : Bool := isNamePoint point || isOneOf ";/?:@&=+$,.!~*'()[]%" point

/-- Reads bytes that are written as a percent sign and two digits each. -/
def readEscapes : (bound : Nat) → (bytes : Bytes) → Cursor → Reading (Bytes × Cursor)
  | 0, _, _ => malformed
  | bound + 1, bytes, cursor =>
    if cursor.isAt '%' then
      let digits := (cursor.rest.drop 1).take 2
      if digits.length == 2 && digits.all Markup.isHexDigit then
        readEscapes bound (bytes ++ [UInt8.ofNat (Markup.readDigits 16 digits)]) (cursor.skip 3)
      else malformed
    else .ok (bytes, cursor)

/-- Reads the text of a tag, escapes replaced. -/
def readTagText : (bound : Nat) → (done : Text) → Cursor → Reading (Text × Cursor)
  | 0, _, _ => malformed
  | bound + 1, done, cursor => do
    if cursor.isAt '%' then
      let (bytes, cursor) ← readEscapes (cursor.rest.length + 1) [] cursor
      match Text.decode bytes with
      | .ok text => readTagText bound (done ++ text) cursor
      | .error _ => malformed
    else
      match cursor.head? with
      | some point =>
        if isTagPoint point then readTagText bound (done ++ [point]) cursor.next
        else .ok (done, cursor)
      | none => .ok (done, cursor)

/-- Reads the text of a tag; there has to be one. -/
def readSuffix (cursor : Cursor) : Reading (Text × Cursor) := do
  let (text, after) ← readTagText (cursor.rest.length + 1) [] cursor
  if after.place == cursor.place then malformed else .ok (text, after)

/-- Reads a handle: an exclamation mark, or two with a name between them. -/
def readHandle (cursor : Cursor) : Reading (Text × Cursor) :=
  if !cursor.isAt '!' then malformed
  else if cursor.peek? 1 = some (.scalar ' ') then .ok ("!", cursor.next)
  else
    let (name, after) := cursor.next.takeWhile isNamePoint
    if after.isAt '!' then .ok (.scalar '!' :: name ++ [.scalar '!'], after.next) else malformed

/-- Whether a tag has a handle with a name: an exclamation mark follows the first within the word. -/
def hasNamedHandle (text : Text) : Bool :=
  List.contains (text.takeWhile fun point => !endsWord (some point)) (.scalar '!')

/-- Reads a tag. -/
def readTag (cursor : Cursor) : Reading (TagMark × Cursor) := do
  let (mark, cursor) ←
    if cursor.peek? 1 = some (.scalar '<') then do
      let (suffix, after) ← readSuffix (cursor.skip 2)
      if after.isAt '>' then pure (TagMark.mk none suffix, after.next) else malformed
    else if endsToken (cursor.peek? 1) then pure (TagMark.mk none "!", cursor.next)
    else if hasNamedHandle (cursor.rest.drop 1) then do
      let (handle, after) ← readHandle cursor
      let (suffix, after) ← readSuffix after
      pure (TagMark.mk (some handle) suffix, after)
    else do
      let (suffix, after) ← readSuffix cursor.next
      pure (TagMark.mk (some "!") suffix, after)
  if endsWord cursor.head? then .ok (mark, cursor) else malformed

/-- Reads a number. -/
def readNumber (cursor : Cursor) : Reading (Nat × Cursor) :=
  let (digits, after) := cursor.takeWhile Markup.isAsciiDigit
  if digits.isEmpty then malformed else .ok (Markup.readDigits 10 digits, after)

/-- Reads what a directive of a version says. -/
def readVersion (cursor : Cursor) : Reading (Directive × Cursor) := do
  let (major, cursor) ← readNumber (cursor.skipWhile isSpace)
  if !cursor.isAt '.' then malformed
  else
    let (_, cursor) ← readNumber cursor.next
    if endsWord cursor.head? then .ok (.version major, cursor) else malformed

/-- Reads what a directive of a handle says. -/
def readExpansion (cursor : Cursor) : Reading (Directive × Cursor) := do
  let (handle, cursor) ← readHandle (cursor.skipWhile isSpace)
  if !cursor.isAt ' ' then malformed
  else
    let (expansion, cursor) ← readSuffix (cursor.skipWhile isSpace)
    if endsWord cursor.head? then .ok (.handle handle expansion, cursor) else malformed

/-- Reads a directive behind its percent sign. -/
def readDirective (cursor : Cursor) : Reading (Directive × Cursor) := do
  let (name, cursor) := cursor.takeWhile isNamePoint
  if name.isEmpty || !endsWord cursor.head? then malformed
  else
    let (directive, cursor) ←
      if name = ("YAML" : Text) then readVersion cursor
      else if name = ("TAG" : Text) then readExpansion cursor
      else pure (.other, cursor.restOfLine.2)
    .ok (directive, ← cursor.skipToLineEnd)

end Property

end PageTemplates.Yaml
