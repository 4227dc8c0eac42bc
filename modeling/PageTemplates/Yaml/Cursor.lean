import PageTemplates.Failure

/-!
Places in a YAML text. A cursor knows the line and the column it is at, because indentation tells what
belongs to what. The characters that end lines are those of YAML 1.1.
-/

namespace PageTemplates.Yaml

/-- Why a text is no document: it breaks the rules, or the data it describes cannot be made. -/
inductive Fault where
  | malformed
  | failed (failure : Failure)

/-- What is read, or why nothing is. -/
abbrev Reading := Except Fault

/-- A text that breaks the rules. -/
def malformed {Result : Type} : Reading Result := .error .malformed

/-- Whether a text may hold a character. -/
def isAllowed (point : CodePoint) : Bool :=
  let number := point.value
  number == 0x9 || number == 0xA || number == 0xD || (0x20 ≤ number && number ≤ 0x7E) ||
    number == 0x85 || (0xA0 ≤ number && number ≤ 0xD7FF) ||
    (0xE000 ≤ number && number ≤ 0xFFFD) || (0x10000 ≤ number && number ≤ 0x10FFFF)

/-- Characters that end lines. -/
def isBreak (point : CodePoint) : Bool :=
  let number := point.value
  number == 0xA || number == 0xD || number == 0x85 || number == 0x2028 || number == 0x2029

/-- A space. -/
def isSpace (point : CodePoint) : Bool := point = .scalar ' '

/-- A space or a tab. -/
def isSpaceOrTab (point : CodePoint) : Bool := point = .scalar ' ' || point = .scalar '\t'

/-- The end of the text or of a line. -/
def endsLine : Option CodePoint → Bool
  | none => true
  | some point => isBreak point

/-- The end of the text or of a line, or a space. -/
def endsWord (point : Option CodePoint) : Bool :=
  endsLine point || point = some (.scalar ' ')

/-- The end of the text or of a line, or a space or tab. -/
def endsToken (point : Option CodePoint) : Bool :=
  endsWord point || point = some (.scalar '\t')

/-- Letters and digits of the alphabet of names, hyphen and underscore among them. -/
def isNamePoint (point : CodePoint) : Bool :=
  point.satisfies fun character =>
    character.isDigit || character.isAlpha || character == '-' || character == '_'

/-- One of the given characters. -/
def isOneOf (characters : String) (point : CodePoint) : Bool :=
  List.contains (Text.ofString characters) point

/-- A place in a text: how many characters and line ends are before it, how many characters are before it
on its line, and what follows. -/
structure Cursor where
  place : Nat
  line : Nat
  column : Nat
  rest : Text

namespace Cursor

/-- The start of a text. -/
def start (text : Text) : Cursor := ⟨0, 0, 0, text⟩

/-- The next character. -/
def head? (cursor : Cursor) : Option CodePoint := cursor.rest.head?

/-- The character after a number of others. -/
def peek? (cursor : Cursor) (count : Nat) : Option CodePoint := cursor.rest[count]?

/-- Whether a certain character is next. -/
def isAt (cursor : Cursor) (character : Char) : Bool := cursor.head? = some (.scalar character)

/-- Goes one character on. A byte order mark takes no column; a line that ends in two characters ends
with the second. -/
def next (cursor : Cursor) : Cursor :=
  match cursor.rest with
  | [] => cursor
  | point :: rest =>
    let paired := point = .scalar '\r' && rest.head? = some (.scalar '\n')
    if isBreak point && !paired then ⟨cursor.place + 1, cursor.line + 1, 0, rest⟩
    else if point = .scalar '\uFEFF' then ⟨cursor.place + 1, cursor.line, cursor.column, rest⟩
    else ⟨cursor.place + 1, cursor.line, cursor.column + 1, rest⟩

/-- Goes a number of characters on. -/
def skip : (count : Nat) → Cursor → Cursor
  | 0, cursor => cursor
  | count + 1, cursor => skip count cursor.next

/-- The characters that pass a test, and the place behind them. -/
def takeWhile (test : CodePoint → Bool) (cursor : Cursor) : Text × Cursor :=
  let taken := cursor.rest.takeWhile test
  (taken, cursor.skip taken.length)

/-- The place behind the characters that pass a test. -/
def skipWhile (test : CodePoint → Bool) (cursor : Cursor) : Cursor := (cursor.takeWhile test).2

/-- What is left of the line. -/
def restOfLine (cursor : Cursor) : Text × Cursor := cursor.takeWhile fun point => !isBreak point

/-- Reads the end of a line. The common ones are all read as one character; two others stay what they
are, and where no line ends nothing is read. -/
def lineBreak (cursor : Cursor) : Text × Cursor :=
  match cursor.rest with
  | .scalar '\r' :: .scalar '\n' :: _ => ("\n", cursor.skip 2)
  | point :: _ =>
    if point.value == 0x2028 || point.value == 0x2029 then ([point], cursor.next)
    else if isBreak point then ("\n", cursor.next)
    else ([], cursor)
  | [] => ([], cursor)

/-- Whether a mark between documents is next: three equal characters and the end of a token. -/
def isAtMark (cursor : Cursor) : Bool :=
  (Text.ofString "---" = cursor.rest.take 3 || Text.ofString "..." = cursor.rest.take 3) &&
    endsToken (cursor.peek? 3)

/-- The place behind spaces and a comment, where the line has to end. -/
def skipToLineEnd (cursor : Cursor) : Reading Cursor :=
  let cursor := cursor.skipWhile isSpace
  let cursor := if cursor.isAt '#' then cursor.restOfLine.2 else cursor
  if endsLine cursor.head? then .ok cursor.lineBreak.2 else malformed

end Cursor

end PageTemplates.Yaml
