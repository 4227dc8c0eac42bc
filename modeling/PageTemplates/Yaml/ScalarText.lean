import PageTemplates.Markup.Escape
import PageTemplates.Yaml.Cursor

/-!
Scalars as they are written.

Plain scalars have no quotes. They end at a comment, at a colon that a blank follows, and in a flow
collection also at its marks; in a block they end before a line that is not indented enough.

Quoted scalars: between single quotes only the quote is escaped, by writing it twice; between double quotes
a backslash starts an escape. A line end is read as a space, and each empty line as a line end.

Block scalars: a header tells how the lines are joined and what happens to the line ends behind the last
line; the indentation of the lines is that of the first one, unless the header gives it.
-/

namespace PageTemplates.Yaml

namespace PlainScalar

/-- Whether a plain scalar can start with the next characters. -/
def isStart (flow : Bool) (cursor : Cursor) : Bool :=
  match cursor.head? with
  | none => false
  | some point =>
    (!endsToken (some point) && !isOneOf "-?:,[]\x7b\x7d#&*!|>'\"%@`" point) ||
      (!endsToken (cursor.peek? 1) &&
        (point = .scalar '-' || (!flow && isOneOf "?:" point)))

/-- What ends a scalar behind a colon. -/
def endsAfterColon (flow : Bool) (point : Option CodePoint) : Bool :=
  endsToken point || (flow && (point.map (isOneOf ",[]\x7b\x7d")).getD false)

/-- The word at the start of a text. -/
def word (flow : Bool) : Text → Text
  | [] => []
  | point :: rest =>
    if endsToken (some point) || (point = .scalar ':' && endsAfterColon flow rest.head?) ||
        (flow && isOneOf ",?[]\x7b\x7d" point) then []
    else point :: word flow rest

/-- Reads empty lines and spaces. Nothing is read on from a mark between documents. -/
def readBreaks : (bound : Nat) → (breaks : Text) → Cursor → Option Text × Cursor
  | 0, breaks, cursor => (some breaks, cursor)
  | bound + 1, breaks, cursor =>
    match cursor.head? with
    | some point =>
      if isSpace point then readBreaks bound breaks cursor.next
      else if isBreak point then
        let (ending, after) := cursor.lineBreak
        if after.isAtMark then (none, after) else readBreaks bound (breaks ++ ending) after
      else (some breaks, cursor)
    | none => (some breaks, cursor)

/-- What stands between two words, and whether a line ended there. -/
structure Gap where
  text : Text
  endsLine : Bool

/-- Reads what may stand between two words. -/
def readGap (cursor : Cursor) : Gap × Cursor :=
  let (spaces, cursor) := cursor.takeWhile isSpace
  if (cursor.head?.map isBreak).getD false then
    let (ending, after) := cursor.lineBreak
    if after.isAtMark then (⟨[], true⟩, after)
    else
      match readBreaks (after.rest.length + 1) [] after with
      | (none, after) => (⟨[], true⟩, after)
      | (some breaks, after) =>
        if ending != ("\n" : Text) then (⟨ending ++ breaks, true⟩, after)
        else if breaks.isEmpty then (⟨" ", true⟩, after)
        else (⟨breaks, true⟩, after)
  else (⟨spaces, false⟩, cursor)

/-- Reads words and the gaps between them. The last part of the answer says whether a line ended behind
the last word. -/
def readWords (flow : Bool) (indent : Int) :
    (bound : Nat) → (done : Text) → (gap : Gap) → Cursor → Text × Bool × Cursor
  | 0, done, gap, cursor => (done, gap.endsLine, cursor)
  | bound + 1, done, gap, cursor =>
    if cursor.isAt '#' then (done, gap.endsLine, cursor)
    else
      match word flow cursor.rest with
      | [] => (done, gap.endsLine, cursor)
      | found =>
        let done := done ++ gap.text ++ found
        let (gap, after) := readGap (cursor.skip found.length)
        if gap.text.isEmpty || after.isAt '#' || (!flow && (after.column : Int) < indent) then
          (done, gap.endsLine, after)
        else readWords flow indent bound done gap after

/-- Reads a plain scalar in a collection of an indentation. -/
def read (flow : Bool) (indent : Int) (cursor : Cursor) : Text × Bool × Cursor :=
  readWords flow (indent + 1) (cursor.rest.length + 1) [] ⟨[], false⟩ cursor

end PlainScalar

namespace QuotedScalar

/-- The escapes of one character. -/
def letterEscape? : CodePoint → Option CodePoint
  | .scalar '0' => some '\x00'
  | .scalar 'a' => some '\x07'
  | .scalar 'b' => some '\x08'
  | .scalar 't' => some '\t'
  | .scalar '\t' => some '\t'
  | .scalar 'n' => some '\n'
  | .scalar 'v' => some '\x0b'
  | .scalar 'f' => some '\x0c'
  | .scalar 'r' => some '\r'
  | .scalar 'e' => some '\x1b'
  | .scalar ' ' => some ' '
  | .scalar '"' => some '"'
  | .scalar '\\' => some '\\'
  | .scalar '/' => some '/'
  | .scalar 'N' => some '\u0085'
  | .scalar '_' => some '\u00a0'
  | .scalar 'L' => some '\u2028'
  | .scalar 'P' => some '\u2029'
  | _ => none

/-- How many digits the number of a character takes. -/
def digitsOf? : CodePoint → Option Nat
  | .scalar 'x' => some 2
  | .scalar 'u' => some 4
  | .scalar 'U' => some 8
  | _ => none

/-- The character of a number. -/
def numbered (number : Nat) : Reading CodePoint :=
  match CodePoint.ofNat? number with
  | some point => .ok point
  | none =>
    if number < Nat.pow 2 31 then .error (.failed (.wrongValue "chr() arg not in range(0x110000)"))
    else .error (.failed ⟨.overflow, "Python int too large to convert to C int"⟩)

/-- Reads the digits of the number of a character. -/
def readNumbered (count : Nat) (cursor : Cursor) : Reading (CodePoint × Cursor) := do
  let digits := cursor.rest.take count
  if digits.length == count && digits.all Markup.isHexDigit then
    .ok (← numbered (Markup.readDigits 16 digits), cursor.skip count)
  else malformed

/-- Reads empty lines and the spaces on them. No mark between documents may stand there. -/
def readBreaks : (bound : Nat) → (breaks : Text) → Cursor → Reading (Text × Cursor)
  | 0, _, _ => malformed
  | bound + 1, breaks, cursor =>
    if cursor.isAtMark then malformed
    else
      let cursor := cursor.skipWhile isSpaceOrTab
      if (cursor.head?.map isBreak).getD false then
        let (ending, after) := cursor.lineBreak
        readBreaks bound (breaks ++ ending) after
      else .ok (breaks, cursor)

/-- Reads spaces and line ends between words: spaces stand for themselves unless the line ends. -/
def readSpaces (cursor : Cursor) : Reading (Text × Cursor) := do
  let (spaces, cursor) := cursor.takeWhile isSpaceOrTab
  match cursor.head? with
  | none => malformed
  | some point =>
    if isBreak point then
      let (ending, after) := cursor.lineBreak
      let (breaks, after) ← readBreaks (after.rest.length + 1) [] after
      if ending != ("\n" : Text) then .ok (ending ++ breaks, after)
      else if breaks.isEmpty then .ok (" ", after)
      else .ok (breaks, after)
    else .ok (spaces, cursor)

/-- Characters that stand for themselves between quotes of either kind. -/
def isOrdinary (point : CodePoint) : Bool :=
  !isSpaceOrTab point && !isBreak point && !isOneOf "'\"\\" point

/-- Reads an escape behind its backslash. -/
def readEscape (cursor : Cursor) : Reading (Text × Cursor) :=
  match cursor.head? with
  | none => malformed
  | some point =>
    match letterEscape? point with
    | some meant => .ok ([meant], cursor.next)
    | none =>
      match digitsOf? point with
      | some count => do
        let (meant, cursor) ← readNumbered count cursor.next
        .ok ([meant], cursor)
      | none =>
        if isBreak point then
          let after := cursor.lineBreak.2
          readBreaks (after.rest.length + 1) [] after
        else malformed

/-- Reads up to the closing quote, which is a double one if `double` is set. -/
def readContent (double : Bool) :
    (bound : Nat) → (done : Text) → Cursor → Reading (Text × Cursor)
  | 0, _, _ => malformed
  | bound + 1, done, cursor => do
    match cursor.rest with
    | [] => malformed
    | .scalar '\'' :: rest =>
      if double then readContent double bound (done ++ [.scalar '\'']) cursor.next
      else if rest.head? = some (.scalar '\'') then
        readContent double bound (done ++ [.scalar '\'']) (cursor.skip 2)
      else .ok (done, cursor.next)
    | .scalar '"' :: _ =>
      if double then .ok (done, cursor.next)
      else readContent double bound (done ++ [.scalar '"']) cursor.next
    | .scalar '\\' :: _ =>
      if double then
        let (meant, cursor) ← readEscape cursor.next
        readContent double bound (done ++ meant) cursor
      else readContent double bound (done ++ [.scalar '\\']) cursor.next
    | point :: _ =>
      if isOrdinary point then
        let (word, cursor) := cursor.takeWhile isOrdinary
        readContent double bound (done ++ word) cursor
      else
        let (between, cursor) ← readSpaces cursor
        readContent double bound (done ++ between) cursor

/-- Reads a quoted scalar behind its opening quote. -/
def read (double : Bool) (cursor : Cursor) : Reading (Text × Cursor) :=
  readContent double (cursor.rest.length + 1) [] cursor

end QuotedScalar

namespace BlockScalar

/-- What happens to the line ends behind the last line. -/
inductive Chomping where
  | clip
  | strip
  | keep

/-- The chomping that a character asks for. -/
def chomping? : Option CodePoint → Option Chomping
  | some (.scalar '+') => some .keep
  | some (.scalar '-') => some .strip
  | _ => none

/-- The indentation that a digit asks for; it is never zero. -/
def increment? (point : Option CodePoint) : Reading (Option Nat) :=
  match point with
  | some (.scalar character) =>
    if character == '0' then malformed
    else if character.isDigit then .ok (some (character.toNat - '0'.toNat))
    else .ok none
  | _ => .ok none

/-- Reads a digit for the indentation, if there is one. -/
def readIncrement (cursor : Cursor) : Reading (Option Nat × Cursor) := do
  match ← increment? cursor.head? with
  | some increment => .ok (some increment, cursor.next)
  | none => .ok (none, cursor)

/-- Reads a character for the chomping, if there is one. -/
def readChomping (cursor : Cursor) : Option Chomping × Cursor :=
  match chomping? cursor.head? with
  | some chomping => (some chomping, cursor.next)
  | none => (none, cursor)

/-- Reads a header: chomping and indentation, in either order. -/
def readHeader (cursor : Cursor) : Reading (Chomping × Option Nat × Cursor) := do
  let (first, cursor) := readChomping cursor
  let (increment, cursor) ← readIncrement cursor
  let (chomping, cursor) := match first with
    | some chomping => (some chomping, cursor)
    | none => if increment.isSome then readChomping cursor else (none, cursor)
  if endsWord cursor.head? then .ok (chomping.getD .clip, increment, cursor) else malformed

/-- Reads line ends and spaces before the first line: the line ends, and the largest column reached. -/
def readLeading : (bound : Nat) → (breaks : Text) → (widest : Nat) → Cursor → Text × Nat × Cursor
  | 0, breaks, widest, cursor => (breaks, widest, cursor)
  | bound + 1, breaks, widest, cursor =>
    match cursor.head? with
    | some point =>
      if point = .scalar ' ' then
        let after := cursor.next
        readLeading bound breaks (max widest after.column) after
      else if isBreak point then
        let (ending, after) := cursor.lineBreak
        readLeading bound (breaks ++ ending) widest after
      else (breaks, widest, cursor)
    | none => (breaks, widest, cursor)

/-- Goes over the spaces of an indentation. -/
def skipIndent (indent : Nat) (cursor : Cursor) : Cursor :=
  let spaces := (cursor.rest.takeWhile isSpace).length
  cursor.skip (min spaces (indent - cursor.column))

/-- Reads line ends, each with an indentation behind it. -/
def readBreaks (indent : Nat) : (bound : Nat) → (breaks : Text) → Cursor → Text × Cursor
  | 0, breaks, cursor => (breaks, cursor)
  | bound + 1, breaks, cursor =>
    match cursor.head? with
    | some point =>
      if isBreak point then
        let (ending, after) := cursor.lineBreak
        readBreaks indent bound (breaks ++ ending) (skipIndent indent after)
      else (breaks, cursor)
    | none => (breaks, cursor)

/-- Whether a line of the scalar is next. -/
def isAtLine (indent : Nat) (cursor : Cursor) : Bool :=
  cursor.column == indent && cursor.head?.isSome

/-- Whether a line starts with a space or a tab. -/
def startsBlank (cursor : Cursor) : Bool := (cursor.head?.map isSpaceOrTab).getD false

/-- Reads the lines. Gives the text up to the end of the last line, the end of that line, and the line
ends behind it. -/
def readLines (folded : Bool) (indent : Nat) :
    (bound : Nat) → (done breaks : Text) → Cursor → Text × Text × Text × Cursor
  | 0, done, breaks, cursor => (done, [], breaks, cursor)
  | bound + 1, done, breaks, cursor =>
    let blank := startsBlank cursor
    let (line, after) := cursor.restOfLine
    let (ending, after) := after.lineBreak
    let (following, after) :=
      readBreaks indent (after.rest.length + 1) [] (skipIndent indent after)
    let done := done ++ breaks ++ line
    if isAtLine indent after then
      let joint : Text :=
        if folded && ending = ("\n" : Text) && !blank && !startsBlank after then
          if following.isEmpty then " " else []
        else ending
      readLines folded indent bound (done ++ joint) following after
    else (done, ending, following, after)

/-- Reads a block scalar behind its first character. `indent` is the indentation of what is around. -/
def read (folded : Bool) (indent : Int) (cursor : Cursor) : Reading (Text × Cursor) := do
  let (chomping, increment, cursor) ← readHeader cursor
  let cursor ← cursor.skipToLineEnd
  let least := max 1 (indent + 1).toNat
  let (breaks, width, cursor) := match increment with
    | some increment =>
      let width := least + increment - 1
      let (breaks, cursor) :=
        readBreaks width (cursor.rest.length + 1) [] (skipIndent width cursor)
      (breaks, width, cursor)
    | none =>
      let (breaks, widest, cursor) := readLeading (cursor.rest.length + 1) [] 0 cursor
      (breaks, max least widest, cursor)
  let (text, ending, breaks, cursor) :=
    if isAtLine width cursor then readLines folded width (cursor.rest.length + 1) [] breaks cursor
    else ([], [], breaks, cursor)
  match chomping with
  | .strip => .ok (text, cursor)
  | .clip => .ok (text ++ ending, cursor)
  | .keep => .ok (text ++ ending ++ breaks, cursor)

end BlockScalar

end PageTemplates.Yaml
