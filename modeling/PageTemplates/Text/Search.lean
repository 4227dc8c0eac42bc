import PageTemplates.Text

/-!
Finding, splitting and replacing inside a text, and trimming it of blanks at its ends. Searches take the
leftmost place and go on after it, so places found never overlap.
-/

namespace PageTemplates.Text

/-- White space: the ASCII blanks with the four information separators, the next-line control, and
the separators of the other scripts. -/
def isBlank (point : Nat) : Bool :=
  (9 ≤ point && point ≤ 13) || (28 ≤ point && point ≤ 32) || point == 0x85 || point == 0xA0 ||
  point == 0x1680 || (0x2000 ≤ point && point ≤ 0x200A) || point == 0x2028 || point == 0x2029 ||
  point == 0x202F || point == 0x205F || point == 0x3000

/-- Tells whether a code point is white space. -/
def blank (point : CodePoint) : Bool := isBlank point.value

/-- Drops from the end of a list what passes the test. -/
def dropEnd {Item : Type} (test : Item → Bool) (items : List Item) : List Item :=
  (items.reverse.dropWhile test).reverse

/-- Drops from both ends of a list what passes the test. -/
def dropEnds {Item : Type} (test : Item → Bool) (items : List Item) : List Item :=
  dropEnd test (items.dropWhile test)

/-- Drops white space at the start. -/
def trimStart (text : Text) : Text := text.dropWhile blank

/-- Drops white space at the end. -/
def trimEnd (text : Text) : Text := dropEnd blank text

/-- Drops white space at both ends. -/
def trim (text : Text) : Text := dropEnds blank text

/-- The parts of a text between runs of white space. -/
def words (text : Text) : List Text :=
  let step (state : Text × List Text) (point : CodePoint) : Text × List Text :=
    if blank point then
      if state.1.isEmpty then state else ([], state.1.reverse :: state.2)
    else (point :: state.1, state.2)
  let (last, done) := text.foldl step ([], [])
  (if last.isEmpty then done else last.reverse :: done).reverse

/-- The rest of a text after an opening part, if the text begins with it. -/
def dropOpening? : (opening text : Text) → Option Text
  | [], text => some text
  | _ :: _, [] => none
  | first :: opening, point :: text =>
    if first = point then dropOpening? opening text else none

/-- Tells whether a text begins with another one. -/
def startsWith (text opening : Text) : Bool := (dropOpening? opening text).isSome

/-- Tells whether a text ends with another one. -/
def endsWith (text ending : Text) : Bool := startsWith text.reverse ending.reverse

/-- Splits a text at the first place where another text stands: what is before it and after it. -/
def splitFirst? (needle : Text) : Text → Option (Text × Text)
  | [] => if needle.isEmpty then some ([], []) else none
  | point :: rest =>
    match dropOpening? needle (point :: rest) with
    | some after => some ([], after)
    | none => (splitFirst? needle rest).map fun (before, after) => (point :: before, after)

/-- Splits a text at the last place where another text stands. -/
def splitLast? (needle text : Text) : Option (Text × Text) :=
  (splitFirst? needle.reverse text.reverse).map fun (after, before) =>
    (before.reverse, after.reverse)

/-- The place of the first occurrence. -/
def find? (needle text : Text) : Option Nat := (splitFirst? needle text).map (·.1.length)

/-- The place of the last occurrence. -/
def findLast? (needle text : Text) : Option Nat := (splitLast? needle text).map (·.1.length)

/-- Tells whether one text occurs in another. -/
def includes (text needle : Text) : Bool := (splitFirst? needle text).isSome

/-- Parts of a text between the occurrences of a separator that is not empty; at most `limit`
places are split, from the left. -/
def splitOn (separator : Text) : (limit : Nat) → Text → List Text
  | 0, text => [text]
  | limit + 1, text =>
    match splitFirst? separator text with
    | some (before, after) => before :: splitOn separator limit after
    | none => [text]

/-- Parts of a text between all the occurrences of a separator that is not empty. -/
def splitAll (separator text : Text) : List Text := splitOn separator (text.length + 1) text

/-- As `splitOn`, taking the places from the right. -/
def splitOnLast (separator : Text) (limit : Nat) (text : Text) : List Text :=
  ((splitOn separator.reverse limit text.reverse).map List.reverse).reverse

/-- Counts the occurrences that do not overlap; the empty text occurs at every boundary. -/
def occurrences (needle text : Text) : Nat :=
  if needle.isEmpty then text.length + 1 else (splitAll needle text).length - 1

/-- Puts a text at the first `limit` boundaries: before each code point and at the end. -/
def interleave (between : Text) : (limit : Nat) → Text → Text
  | 0, text => text
  | _ + 1, [] => between
  | limit + 1, point :: rest => between ++ point :: interleave between limit rest

/-- Replaces the first `limit` occurrences; without a limit all of them. -/
def replace (text old new : Text) (limit : Option Nat) : Text :=
  if old.isEmpty then interleave new (limit.getD (text.length + 1)) text
  else join new (splitOn old (limit.getD (text.length + 1)) text)

/-- The line breaks of a text, longest first. -/
def lineBreak? : Text → Option Text
  | .scalar '\r' :: .scalar '\n' :: rest => some rest
  | point :: rest =>
    let number := point.value
    if (10 ≤ number && number ≤ 13) || (28 ≤ number && number ≤ 30) || number == 0x85 ||
        number == 0x2028 || number == 0x2029 then some rest else none
  | [] => none

/-- Lines of a text; with `keepBreaks` each line keeps the break that ends it. The first argument
bounds the number of steps by the length of the text. -/
def linesWith (keepBreaks : Bool) : Nat → Text → (current : Text) → List Text
  | 0, _, current => if current.isEmpty then [] else [current.reverse]
  | _ + 1, [], current => if current.isEmpty then [] else [current.reverse]
  | steps + 1, point :: rest, current =>
    match lineBreak? (point :: rest) with
    | some after =>
      let ending := (point :: rest).take (rest.length + 1 - after.length)
      let line := current.reverse ++ (if keepBreaks then ending else [])
      line :: linesWith keepBreaks steps after []
    | none => linesWith keepBreaks steps rest (point :: current)

/-- The lines of a text without their breaks. -/
def lines (text : Text) : List Text := linesWith false (text.length + 1) text []

/-- The lines of a text with their breaks. -/
def linesKeepingBreaks (text : Text) : List Text := linesWith true (text.length + 1) text []

end PageTemplates.Text
