import PageTemplates.Markup.Entity
import PageTemplates.Text.Search

/-!
Text inside markup. Escaping turns the five characters that mean something to markup into character
references; unescaping reads references back, those of any name or number; stripping drops tags and
comments.
-/

namespace PageTemplates.Markup

/-- A code point with the five special characters as references. -/
def escapePoint (point : CodePoint) : Text :=
  if point = .scalar '&' then "&amp;"
  else if point = .scalar '<' then "&lt;"
  else if point = .scalar '>' then "&gt;"
  else if point = .scalar '\x27' then "&#39;"
  else if point = .scalar '\x22' then "&#34;"
  else [point]

/-- A text in which no character means markup. -/
def escape (text : Text) : Text := text.flatMap escapePoint

/-- ASCII digits. -/
def isAsciiDigit (point : CodePoint) : Bool := point.satisfies Char.isDigit

/-- ASCII hexadecimal digits. -/
def isHexDigit (point : CodePoint) : Bool :=
  point.satisfies fun character =>
    character.isDigit || ('a' ≤ character && character ≤ 'f') ||
      ('A' ≤ character && character ≤ 'F')

/-- The value of a digit of a base up to sixteen. -/
def digitValue (point : CodePoint) : Nat :=
  let number := point.value
  if number ≤ 57 then number - 48 else if number ≤ 70 then number - 55 else number - 87

/-- Reads digits in a base. -/
def readDigits (base : Nat) (digits : Text) : Nat :=
  digits.foldl (fun number digit => number * base + digitValue digit) 0

/-- Numbers of controls and non-characters: a reference to one yields nothing. -/
def isDroppedReference (number : Nat) : Bool :=
  (1 ≤ number && number ≤ 8) || number == 0xB || (0xE ≤ number && number ≤ 0x1F) ||
  (0x7F ≤ number && number ≤ 0x9F) || (0xFDD0 ≤ number && number ≤ 0xFDEF) ||
  number % 0x10000 == 0xFFFE || number % 0x10000 == 0xFFFF

/-- What a numeric reference stands for. -/
def numbered (number : Nat) : Text :=
  match replacedReferences.lookup number with
  | some other => (CodePoint.ofNat? other).toList
  | none =>
    if (0xD800 ≤ number && number ≤ 0xDFFF) || number > 0x10FFFF then [.scalar '\uFFFD']
    else if isDroppedReference number then []
    else (CodePoint.ofNat? number).toList

/-- The longest beginning of a name, of at least two characters, that is itself a name. -/
def longestName (name : Text) : Nat → Option Text
  | 0 => none
  | 1 => none
  | length + 1 =>
    match (Text.toChars? (name.take (length + 1))).bind entity? with
    | some found => some (found ++ name.drop (length + 1))
    | none => longestName name length

/-- What a named reference stands for; one without a known name stays. -/
def named (name : Text) : Text :=
  match (Text.toChars? name).bind entity? with
  | some found => found
  | none => (longestName name (name.length - 1)).getD ("&" ++ name)

/-- Takes a semicolon from the start, if there is one. -/
def takeSemicolon : Text → Text × Text
  | .scalar ';' :: rest => ([.scalar ';'], rest)
  | rest => ([], rest)

/-- Characters that can stand in the name of a reference. -/
def isNamePoint (point : CodePoint) : Bool :=
  !point.satisfies fun character =>
    character == '\t' || character == '\n' || character == '\x0c' || character == ' ' ||
      character == '<' || character == '&' || character == '#' || character == ';'

/-- Reads a reference after its ampersand: what it stands for and the rest. -/
def reference? (text : Text) : Option (Text × Text) :=
  match text with
  | .scalar '#' :: rest =>
    let hexadecimal := match rest with
      | .scalar 'x' :: digits => some digits
      | .scalar 'X' :: digits => some digits
      | _ => none
    let (base, test, digits) := match hexadecimal with
      | some digits => (16, isHexDigit, digits)
      | none => (10, isAsciiDigit, rest)
    let number := digits.takeWhile test
    if number.isEmpty then none
    else some (numbered (readDigits base number), (takeSemicolon (digits.dropWhile test)).2)
  | _ =>
    let name := (text.takeWhile isNamePoint).take 32
    if name.isEmpty then none
    else
      let (semicolon, rest) := takeSemicolon (text.drop name.length)
      some (named (name ++ semicolon), rest)

/-- Reads references back; the first argument bounds the number of steps. -/
def unescapeWith : Nat → Text → Text
  | 0, text => text
  | _ + 1, [] => []
  | steps + 1, .scalar '&' :: rest =>
    match reference? rest with
    | some (found, after) => found ++ unescapeWith steps after
    | none => .scalar '&' :: unescapeWith steps rest
  | steps + 1, point :: rest => point :: unescapeWith steps rest

/-- The text whose references are read back. -/
def unescape (text : Text) : Text := unescapeWith text.length text

/-- Drops every part from an opening mark to the next closing mark, as long as both are found; the
closing mark may begin `overlap` characters into the opening one. -/
def dropBetween (opening closing : Text) (overlap : Nat) : Nat → Text → Text
  | 0, text => text
  | steps + 1, text =>
    match Text.splitFirst? opening text with
    | none => text
    | some (before, after) =>
      match Text.splitFirst? closing (opening.drop overlap ++ after) with
      | none => text
      | some (_, rest) => dropBetween opening closing overlap steps (before ++ rest)

/-- The text without comments and tags, its blanks collapsed and its references read back. -/
def stripTags (text : Text) : Text :=
  let plain := dropBetween "<" ">" 1 text.length (dropBetween "<!--" "-->" 0 text.length text)
  unescape (Text.join " " (Text.words plain))

end PageTemplates.Markup
