import PageTemplates.Text
import PageTemplates.Text.CaseTables

/-!
Case of letters: the four case maps of a text and the questions asked of them. A case map takes a
code point to one or several code points; the one rule that looks at the neighbours is the small
sigma at the end of a word.
-/

namespace PageTemplates.Text

/-- Where a point moves under a table of runs. -/
def move (runs : Array Run) (point : Nat) : Nat :=
  match runs.find? fun run =>
      run.first ≤ point && point ≤ run.last && (point - run.first) % run.step == 0 with
  | some run => (point + run.distance).toNat
  | none => point

/-- The code points of a list of numbers. -/
def ofNumbers (numbers : List Nat) : Text := numbers.filterMap CodePoint.ofNat?

/-- The image of one code point: its expansion if it has one, else the point it moves to. -/
def mapCase (runs : Array Run) (expansions : List (Nat × List Nat)) (point : CodePoint) : Text :=
  match expansions.lookup point.value with
  | some points => ofNumbers points
  | none =>
    let moved := move runs point.value
    if moved == point.value then [point] else ofNumbers [moved]

/-- The upper case of one code point. -/
def upperPoint (point : CodePoint) : Text :=
  if point.value < 128 then
    match point with
    | .scalar character => [.scalar character.toUpper]
    | other => [other]
  else mapCase upperRuns upperExpansions point

/-- The lower case of one code point, without regard to its neighbours. -/
def lowerPoint (point : CodePoint) : Text :=
  if point.value < 128 then
    match point with
    | .scalar character => [.scalar character.toLower]
    | other => [other]
  else mapCase lowerRuns lowerExpansions point

/-- The title case of one code point. -/
def titlePoint (point : CodePoint) : Text :=
  if point.value < 128 then upperPoint point else mapCase titleRuns titleExpansions point

/-- The case folding of one code point. -/
def foldPoint (point : CodePoint) : Text :=
  if point.value < 128 then lowerPoint point else mapCase foldRuns foldExpansions point

/-- Title-case letters. -/
def isTitleCase (point : Nat) : Bool := Ranges.contains titleCaseBounds point

/-- Upper-case letters. -/
def isUpper (point : CodePoint) : Bool :=
  if point.value < 128 then point.satisfies Char.isUpper
  else
    ((lowerPoint point != [point] && !isTitleCase point.value) !=
      Ranges.contains upperDifferences point.value)

/-- Lower-case letters. -/
def isLower (point : CodePoint) : Bool :=
  if point.value < 128 then point.satisfies Char.isLower
  else
    ((upperPoint point != [point] && lowerPoint point == [point] &&
        !isTitleCase point.value) != Ranges.contains lowerDifferences point.value)

/-- Letters that have a case. -/
def isCased (point : CodePoint) : Bool :=
  isUpper point || isLower point || isTitleCase point.value

/-- Marks inside a word that the rule for the last sigma looks through. -/
def isCaseIgnorable (point : Nat) : Bool :=
  [0x27, 0x2E, 0x3A, 0x5E, 0x60, 0xA8, 0xAD, 0xAF, 0xB4, 0xB7, 0xB8, 0x2018, 0x2019,
    0x2024, 0x2027].contains point || (0x2B0 ≤ point && point ≤ 0x36F)

/-- Whether the nearest code point that is not looked through is cased. -/
def casedNearby : Text → Bool
  | [] => false
  | point :: rest => if isCaseIgnorable point.value then casedNearby rest else isCased point

/-- Small sigma: the final form after a cased letter and before none. -/
def sigma (before after : Text) : CodePoint :=
  if casedNearby before && !casedNearby after then .scalar 'ς' else .scalar 'σ'

/-- Lower case with the code points already passed, nearest first. -/
def lowerAfter (before : Text) : Text → Text
  | [] => []
  | point :: rest =>
    (if point = .scalar 'Σ' then [sigma before rest] else lowerPoint point) ++
      lowerAfter (point :: before) rest

/-- The lower case of a text. -/
def lower (text : Text) : Text :=
  if text.contains (.scalar 'Σ') then lowerAfter [] text else text.flatMap lowerPoint

/-- The upper case of a text. -/
def upper (text : Text) : Text := text.flatMap upperPoint

/-- The case folding of a text. -/
def foldCase (text : Text) : Text := text.flatMap foldPoint

/-- Title case at the start, lower case after it. -/
def capitalize : Text → Text
  | [] => []
  | point :: rest => titlePoint point ++ lowerAfter [point] rest

/-- Each run of cased letters in title case at its start and in lower case after it. -/
def titleAfter (before : Text) : (inWord : Bool) → Text → Text
  | _, [] => []
  | inWord, point :: rest =>
    let image :=
      if !inWord then titlePoint point
      else if point = .scalar 'Σ' then [sigma before rest]
      else lowerPoint point
    image ++ titleAfter (point :: before) (isCased point) rest

/-- The title case of a text. -/
def title (text : Text) : Text := titleAfter [] false text

/-- Upper case for lower case and the other way round. -/
def swapCase (text : Text) : Text :=
  text.flatMap fun point =>
    if isUpper point then lowerPoint point
    else if isLower point then upperPoint point
    else [point]

/-- Has a cased letter, and every cased letter is lower case. -/
def allLower (text : Text) : Bool :=
  text.any isLower && !text.any fun point => isUpper point || isTitleCase point.value

/-- Has a cased letter, and every cased letter is upper case. -/
def allUpper (text : Text) : Bool :=
  text.any isUpper && !text.any fun point => isLower point || isTitleCase point.value

/-- Upper and title case only where a run of cased letters starts, lower case only inside one. -/
def titleShaped : (inWord seen : Bool) → Text → Bool
  | _, seen, [] => seen
  | inWord, seen, point :: rest =>
    if isUpper point || isTitleCase point.value then !inWord && titleShaped true true rest
    else if isLower point then inWord && titleShaped true true rest
    else titleShaped false seen rest

end PageTemplates.Text
