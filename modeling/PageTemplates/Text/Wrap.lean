import PageTemplates.Text.Identifier
import PageTemplates.Text.Search

/-!
Wrapping a text into lines of a width. The text is cut into pieces that stay together: runs of
blanks, words, parts of words that end in a hyphen between letters, and dashes between words. A line
takes pieces as long as they fit; what is wider than a line is cut if that is allowed.
-/

namespace PageTemplates.Text.Wrap

/-- The blanks at which a line may end. -/
def isGap (point : CodePoint) : Bool :=
  point.satisfies fun character =>
    ['\t', '\n', '\x0b', '\x0c', '\r', ' '].contains character

/-- A word character, or a mark that a dash may follow. -/
def isWordMark (point : CodePoint) : Bool :=
  isWord point.value || point.satisfies fun character =>
    ['!', '"', '\'', '&', '.', ',', '?'].contains character

/-- A word character that is no digit. -/
def isLetterPoint (point : CodePoint) : Bool := isWord point.value && !isDecimal point.value

/-- The hyphen. -/
def hyphen : CodePoint := .scalar '-'

/-- How many hyphens a text starts with. -/
def hyphens (text : Text) : Nat := (text.takeWhile (· = hyphen)).length

/-- Whether a dash of two hyphens or more with a word after it starts here. -/
def startsDash (text : Text) : Bool :=
  2 ≤ hyphens text && ((text.drop (hyphens text)).head?.map fun point =>
    isWord point.value).getD false

/-- Whether two letters, or letters with a hyphen between, start here. -/
def startsLetters : Text → Bool
  | first :: .scalar '-' :: second :: _ => isLetterPoint first && isLetterPoint second
  | first :: second :: _ => isLetterPoint first && isLetterPoint second
  | _ => false

/-- Whether a text, read backwards from a hyphen, ends in two letters, or in a letter, a hyphen and
a word mark. -/
def endsBreakable : Text → Bool
  | first :: second :: rest =>
    (isLetterPoint first && isLetterPoint second) ||
      (isWordMark first && second = hyphen && (rest.head?.map isLetterPoint).getD false)
  | _ => false

/-- Whether a word may end after the given characters, read backwards, before the given rest: at a
gap, at the end, or before a dash. -/
def endsWord (before rest : Text) : Bool :=
  match rest with
  | [] => true
  | point :: _ =>
    isGap point || ((before.head?.map isWordMark).getD false && startsDash rest)

/-- The shortest piece of a word: `before` is what precedes, read backwards, and `so` counts the
characters taken, of which there is at least one. -/
def wordLength (before : Text) (so : Nat) : Text → Nat
  | [] => so
  | point :: rest =>
    if 0 < so && point = hyphen && endsBreakable before && startsLetters rest then so + 1
    else if 0 < so && endsWord before (point :: rest) then so
    else wordLength (point :: before) (so + 1) rest

/-- The length of the first piece of a text; `before` is what precedes, read backwards. -/
def pieceLength (before text : Text) : Nat :=
  match text with
  | [] => 0
  | point :: _ =>
    if isGap point then (text.takeWhile isGap).length
    else if (before.head?.map isWordMark).getD false && startsDash text then hyphens text
    else wordLength before 0 text

/-- The pieces of a text. The first argument bounds their number. -/
def pieces : (bound : Nat) → (before text : Text) → List Text
  | 0, _, _ => []
  | bound + 1, before, text =>
    match text with
    | [] => []
    | _ =>
      let size := max 1 (pieceLength before text)
      text.take size :: pieces bound ((text.take size).reverse ++ before) (text.drop size)

/-- The pieces of a text when hyphens do not matter: runs of gaps and of all else. -/
def plainPieces : (bound : Nat) → Text → List Text
  | 0, _ => []
  | bound + 1, text =>
    match text with
    | [] => []
    | point :: _ =>
      let run := text.takeWhile fun other => isGap other == isGap point
      run :: plainPieces bound (text.drop run.length)

/-- What a wrapping may do. -/
structure Style where
  width : Nat
  breaksWords : Bool
  breaksHyphens : Bool

/-- Where a piece that is too wide is cut, with the given room left on the line. -/
def cutPlace (style : Style) (piece : Text) (room : Nat) : Nat :=
  if style.breaksHyphens && room < piece.length then
    match findLast? [hyphen] (piece.take room) with
    | some place =>
      if 0 < place && (piece.take place).any (· != hyphen) then place + 1 else room
    | none => room
  else room

/-- Fills a line with pieces: what fits, and the pieces that are left. -/
def fill (width : Nat) : (used : Nat) → List Text → List Text × List Text
  | _, [] => ([], [])
  | used, piece :: rest =>
    if used + piece.length ≤ width then
      let (line, left) := fill width (used + piece.length) rest
      (piece :: line, left)
    else ([], piece :: rest)

/-- Whether a piece is blank. -/
def isBlankPiece (piece : Text) : Bool := piece.all blank

/-- One line, and the pieces that are left. -/
def nextLine (style : Style) (isFirst : Bool) (chunks : List Text) : List Text × List Text :=
  let chunks :=
    match chunks with
    | piece :: rest => if !isFirst && isBlankPiece piece then rest else chunks
    | [] => []
  let (line, left) := fill style.width 0 chunks
  let used := line.flatten.length
  let (line, left) :=
    match left with
    | piece :: rest =>
      if style.width < piece.length then
        if style.breaksWords then
          let cut := cutPlace style piece (style.width - used)
          (line ++ [piece.take cut], piece.drop cut :: rest)
        else if line.isEmpty then ([piece], rest)
        else (line, left)
      else (line, left)
    | [] => (line, left)
  match line.reverse with
  | piece :: before => if isBlankPiece piece then (before.reverse, left) else (line, left)
  | [] => (line, left)

/-- The lines of pieces. The first argument bounds their number. -/
def linesOf (style : Style) : (bound : Nat) → (isFirst : Bool) → List Text → List Text
  | 0, _, _ => []
  | bound + 1, isFirst, chunks =>
    match chunks with
    | [] => []
    | _ =>
      let (line, left) := nextLine style isFirst chunks
      if line.isEmpty then linesOf style bound isFirst left
      else line.flatten :: linesOf style bound false left

/-- The lines into which a text is wrapped; the width is not zero. -/
def wrap (style : Style) (text : Text) : List Text :=
  let chunks :=
    if style.breaksHyphens then pieces text.length [] text else plainPieces text.length text
  linesOf style (2 * text.length + 2) true chunks

end PageTemplates.Text.Wrap
