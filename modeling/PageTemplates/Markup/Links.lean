import PageTemplates.Markup.Escape
import PageTemplates.Text.Case
import PageTemplates.Text.Identifier
import PageTemplates.Text.Search

/-!
Links in plain text: words that look like an address of the web or of mail become anchors. Brackets
around a word and marks after it stay outside, unless they close a bracket of the word itself.
-/

namespace PageTemplates.Markup

/-- A shape of text: the rests that may be left after a start of that shape. -/
abbrev Shape := Text → List Text

namespace Shape

/-- One shape after another. -/
def followed (first second : Shape) : Shape := fun text => (first text).flatMap second

/-- Either of two shapes. -/
def either (first second : Shape) : Shape := fun text => first text ++ second text

/-- A shape that may be left out. -/
def optional (shape : Shape) : Shape := either shape fun text => [text]

/-- Between two numbers of characters that pass a test. -/
def run (least most : Nat) (test : CodePoint → Bool) : Shape := fun text =>
  let length := min most (text.takeWhile test).length
  (List.range (length + 1 - least)).map fun more => text.drop (least + more)

/-- A word without regard to case. -/
def literal (word : String) : Shape := fun text =>
  let size := word.length
  if Text.lower (text.take size) = Text.ofString word then [text.drop size] else []

/-- A shape one or more times. The first argument bounds how often. -/
def repeated : (bound : Nat) → Shape → Shape
  | 0, _ => fun _ => []
  | bound + 1, shape => fun text =>
    (shape text).flatMap fun rest => rest :: repeated bound shape rest

/-- A shape a number of times between two bounds. -/
def times (shape : Shape) : (least extra : Nat) → Shape
  | 0, 0 => fun text => [text]
  | 0, extra + 1 => optional (followed shape (times shape 0 extra))
  | least + 1, extra => followed shape (times shape least extra)

/-- Whether a whole text has a shape. -/
def matchesAll (shape : Shape) (text : Text) : Bool := (shape text).any List.isEmpty

/-- A character of a label of a domain. -/
def isLabelPoint (point : CodePoint) : Bool :=
  Text.isWord point.value || point = .scalar '%' || point = .scalar '-'

/-- A character of the name of a top domain. -/
def isTopPoint (point : CodePoint) : Bool := point.satisfies Char.isAlpha

/-- A decimal digit. -/
def isDigitPoint (point : CodePoint) : Bool := Text.isDecimal point.value

/-- The start of a web address. -/
def scheme : Shape := either (literal "http://") (literal "https://")

/-- Labels with points after them. -/
def labels (least most : Nat) (bound : Nat) : Shape :=
  repeated bound (followed (run least most isLabelPoint) (literal "."))

/-- The names of top domains that need no scheme. -/
def knownTops : List String := ["com", "net", "int", "edu", "gov", "org", "info", "mil"]

/-- A domain after a scheme or the usual first label. -/
def namedHost (bound : Nat) : Shape :=
  followed (either scheme (literal "www.")) <|
    followed (optional (labels 1 bound bound)) <|
      either (run 2 63 isTopPoint)
        (followed (literal "xn--") (run 2 59 fun point =>
          Text.isWord point.value || point = .scalar '%'))

/-- A domain with a well-known ending. -/
def bareHost (bound : Nat) : Shape :=
  followed (labels 2 63 bound)
    (knownTops.foldr (fun top others => either (literal top) others) fun _ => [])

/-- Four numbers with points between them. -/
def fourNumbers : Shape :=
  let number := run 1 3 isDigitPoint
  followed number (times (followed (literal ".") number) 3 0)

/-- Groups of hexadecimal digits with colons between them, in brackets. -/
def hexGroups : Shape :=
  let group := run 0 4 fun point => isDigitPoint point || isHexDigit point
  followed (literal "[") <|
    followed (times (followed group (literal ":")) 2 0) <|
      followed (times (followed group (optional (literal ":"))) 1 5) (literal "]")

/-- A host by number after a scheme. -/
def numberedHost : Shape := followed scheme (either fourNumbers hexGroups)

/-- A port, and a path, query or fragment. -/
def location : Shape :=
  let port := followed (literal ":") (run 1 5 isDigitPoint)
  let path : Shape := fun text =>
    match text with
    | point :: rest =>
      if point.satisfies fun character => ['/', '?', '#'].contains character then
        [rest.dropWhile (!Text.blank ·)]
      else []
    | [] => []
  followed (optional port) (optional path)

/-- Whether a word is an address of the web. -/
def isWebAddress (word : Text) : Bool :=
  let bound := word.length + 1
  matchesAll (followed (either (namedHost bound) (either (bareHost bound) numberedHost)) location)
    word

/-- Whether a word is an address of mail. -/
def isMailAddress (word : Text) : Bool :=
  word.all (!Text.blank ·) &&
    (List.range word.length).any fun place =>
      0 < place && word[place]? == some (.scalar '@') &&
        match word.drop (place + 1) with
        | first :: rest =>
          Text.isWord first.value &&
            (List.range rest.length).any fun point =>
              rest[point]? == some (.scalar '.') &&
                ((rest.take point).all fun other =>
                  Text.isWord other.value || other = .scalar '.' || other = .scalar '-') &&
                !(rest.drop (point + 1)).isEmpty &&
                (rest.drop (point + 1)).all fun other => Text.isWord other.value
        | [] => false

/-- Whether a text is the start of an address of some kind: two characters or more and a colon, with
up to two strokes after it. -/
def isSchemeStart (text : Text) : Bool :=
  let part (point : CodePoint) : Bool :=
    Text.isWord point.value || point.satisfies fun character => ['.', '+', '-'].contains character
  matchesAll (followed (run 2 text.length part)
    (followed (literal ":") (times (literal "/") 0 2))) text

end Shape

/-- How links are written: the most characters shown, what follows the address in the tag, and
further starts of addresses. -/
structure LinkStyle where
  limit : Option Int
  attributes : Text
  schemes : List Text

/-- A text in pieces that are blank and pieces that are not, in turn. -/
def gapsAndWords : (bound : Nat) → Text → List Text
  | 0, _ => []
  | _ + 1, [] => []
  | bound + 1, point :: rest =>
    let run := point :: rest.takeWhile fun other => Text.blank other == Text.blank point
    run :: gapsAndWords bound ((point :: rest).drop run.length)

/-- The brackets that a word starts with. -/
def openings : (bound : Nat) → Text → Text
  | 0, _ => []
  | bound + 1, text =>
    match text with
    | .scalar '(' :: rest => .scalar '(' :: openings bound rest
    | .scalar '<' :: rest => .scalar '<' :: openings bound rest
    | _ =>
      match Text.dropOpening? "&lt;" text with
      | some rest => "&lt;" ++ openings bound rest
      | none => []

/-- How many characters of a word, read backwards, are closing marks. -/
def closings : (bound : Nat) → Text → Nat
  | 0, _ => 0
  | bound + 1, text =>
    match text with
    | .scalar ';' :: _ =>
      match Text.dropOpening? (Text.ofString "&gt;").reverse text with
      | some rest => closings bound rest + 4
      | none => 0
    | point :: rest =>
      if point.satisfies fun character => [')', '>', '.', ',', '\n'].contains character then
        closings bound rest + 1
      else 0
    | [] => 0

/-- Moves closing marks back into a word that lacks them. -/
def moveBack (closing : Text) : (count : Nat) → Text × Text → Text × Text
  | 0, parts => parts
  | count + 1, (middle, tail) =>
    match Text.splitFirst? closing tail with
    | some (before, after) => moveBack closing count (middle ++ before ++ closing, after)
    | none => (middle, tail)

/-- Gives a word the closing brackets that it needs from what follows it. -/
def balanced (parts : Text × Text) (pair : Text × Text) : Text × Text :=
  let opened := Text.occurrences pair.1 parts.1
  if opened ≤ Text.occurrences pair.2 parts.1 then parts
  else moveBack pair.2 (min opened (Text.occurrences pair.2 parts.2)) parts

/-- The shown form of an address. -/
def shortened (style : LinkStyle) (address : Text) : Text :=
  match style.limit with
  | none => address
  | some limit =>
    if limit < address.length then
      let kept := if limit < 0 then (address.length + limit).toNat else limit.toNat
      address.take kept ++ "..."
    else address

/-- An anchor. -/
def anchor (address attributes shown : Text) : Text :=
  "<a href=\"" ++ address ++ "\"" ++ attributes ++ ">" ++ shown ++ "</a>"

/-- A word with its link, if it is an address. -/
def linkedWord (style : LinkStyle) (word : Text) : Text :=
  if Shape.isWebAddress word then
    let address :=
      if Text.startsWith word "https://" || Text.startsWith word "http://" then word
      else "https://" ++ word
    anchor address style.attributes (shortened style word)
  else if Text.startsWith word "mailto:" && Shape.isMailAddress (word.drop 7) then
    anchor word [] (word.drop 7)
  else if Text.includes word "@" && !Text.startsWith word "www." && !Text.startsWith word "@" &&
      !Text.includes word ":" && Shape.isMailAddress word then
    anchor ("mailto:" ++ word) [] word
  else
    style.schemes.foldl (fun so scheme =>
      if so != scheme && Text.startsWith so scheme then anchor so style.attributes so else so) word

/-- A piece of text with its link. -/
def linkedPiece (style : LinkStyle) (piece : Text) : Text :=
  let head := openings piece.length piece
  let middle := piece.drop head.length
  let size := closings middle.length middle.reverse
  let parts := (middle.take (middle.length - size), middle.drop (middle.length - size))
  let pairs : List (Text × Text) := [("(", ")"), ("<", ">"), ("&lt;", "&gt;")]
  let (middle, tail) := pairs.foldl balanced parts
  head ++ linkedWord style middle ++ tail

/-- Escaped text with links. -/
def linked (style : LinkStyle) (text : Text) : Text :=
  (gapsAndWords text.length text).flatMap (linkedPiece style)

end PageTemplates.Markup
