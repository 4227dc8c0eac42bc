import PageTemplates.Markup.Escape
import PageTemplates.Text.Quoted
import PageTemplates.Text.Identifier
import PageTemplates.Number.Decimal

/-!
Literals of the expression language: numerals with underscores between digits, and texts between
quotes with backslash escapes. The readers take the longest literal at the start of a text and give
its length.
-/

namespace PageTemplates.Template

/-- The length of digits with single underscores between them. -/
def digitRun (isDigit : CodePoint → Bool) (text : Text) : Nat :=
  let rec go : Text → (pending length : Nat) → Nat
    | [], _, length => length
    | point :: rest, pending, length =>
      if isDigit point then go rest 0 (length + pending + 1)
      else if point = .scalar '_' && pending == 0 && length != 0 then go rest 1 length
      else length
  go text 0 0

/-- The length of `_?digit` repeated. -/
def tailRun (isDigit : CodePoint → Bool) (text : Text) : Nat :=
  let rec go : Text → (pending length : Nat) → Nat
    | [], _, length => length
    | point :: rest, pending, length =>
      if isDigit point then go rest 0 (length + pending + 1)
      else if point = .scalar '_' && pending == 0 then go rest 1 length
      else length
  go text 0 0

/-- A decimal digit of any script. -/
def isDecimalPoint (point : CodePoint) : Bool := Text.isDecimal point.value

/-- Equal to a letter in either case. -/
def isLetterOf (letter : Char) (point : CodePoint) : Bool :=
  point.satisfies fun character => character.toLower == letter

/-- The length of an exponent: the letter, a sign or none, digits. -/
def exponentRun (text : Text) : Nat :=
  match text with
  | letter :: rest =>
    if isLetterOf 'e' letter then
      let signed := match rest with
        | .scalar '+' :: _ => 1
        | .scalar '-' :: _ => 1
        | _ => 0
      let digits := digitRun isDecimalPoint (rest.drop signed)
      if digits == 0 then 0 else 1 + signed + digits
    else 0
  | [] => 0

/-- The length of a fraction: the point and digits. -/
def fractionRun (text : Text) : Nat :=
  match text with
  | .scalar '.' :: rest =>
    let digits := digitRun isDecimalPoint rest
    if digits == 0 then 0 else digits + 1
  | _ => 0

/-- The length of a numeral with a fraction or an exponent, if one starts here. -/
def floatRun? (text : Text) : Option Nat :=
  let whole := digitRun isDecimalPoint text
  if whole == 0 then none
  else
    let fraction := fractionRun (text.drop whole)
    let exponent := exponentRun (text.drop (whole + fraction))
    if exponent != 0 then some (whole + fraction + exponent)
    else if fraction != 0 then some (whole + fraction)
    else none

/-- The length of a whole numeral with its base, if one starts here. -/
def integerRun? (text : Text) : Option (Nat × Nat) :=
  let based (letter : Char) (isDigit : CodePoint → Bool) (base : Nat) : Option (Nat × Nat) :=
    match text with
    | .scalar '0' :: second :: rest =>
      if isLetterOf letter second then
        let length := tailRun isDigit rest
        if length == 0 then none else some (length + 2, base)
      else none
    | _ => none
  let digitBelow (bound : Nat) (point : CodePoint) : Bool :=
    Markup.isHexDigit point && Markup.digitValue point < bound
  match based 'b' (digitBelow 2) 2 with
  | some found => some found
  | none =>
    match based 'o' (digitBelow 8) 8 with
    | some found => some found
    | none =>
      match based 'x' Markup.isHexDigit 16 with
      | some found => some found
      | none =>
        match text with
        | .scalar '0' :: rest => some (1 + tailRun (· = .scalar '0') rest, 10)
        | first :: rest =>
          if Markup.isAsciiDigit first then some (1 + tailRun isDecimalPoint rest, 10) else none
        | [] => none

/-- The value of decimal digits of any script; other characters do not count. -/
def decimalDigits (digits : Text) : Nat :=
  digits.foldl (fun number digit =>
    match Text.decimalValue? digit.value with
    | some value => number * 10 + value
    | none => number) 0

/-- The value of a whole numeral. -/
def integerValue (numeral : Text) (base : Nat) : Nat :=
  if base == 10 then decimalDigits numeral
  else Markup.readDigits base ((numeral.drop 2).filter Markup.isHexDigit)

/-- The value of a numeral with a fraction or an exponent. -/
def floatValue (numeral : Text) : Float :=
  let isExponent := isLetterOf 'e'
  let mantissa := numeral.takeWhile fun point => !isExponent point
  let exponent := (numeral.dropWhile fun point => !isExponent point).drop 1
  let fraction := (mantissa.dropWhile (· != .scalar '.')).filter isDecimalPoint
  let negative := exponent.head? == some (.scalar '-')
  let size := Int.ofNat (decimalDigits exponent)
  Number.ofDecimal false (decimalDigits mantissa)
    ((if negative then -size else size) - Int.ofNat fraction.length)

/-- The content of a quoted text and what follows it, if a quoted text starts here. -/
def quotedRun? (text : Text) : Option (Text × Text) :=
  let rec go (quote : CodePoint) : Text → (content : Text) → Option (Text × Text)
    | [], _ => none
    | [point], content => if point = quote then some (content.reverse, []) else none
    | point :: next :: rest, content =>
      if point = quote then some (content.reverse, next :: rest)
      else if point = .scalar '\\' then go quote rest (next :: point :: content)
      else go quote (next :: rest) (point :: content)
  match text with
  | [] => none
  | first :: rest =>
    if first = Text.singleQuote || first = Text.doubleQuote then go first rest [] else none

/-- Writes everything outside ASCII as hexadecimal escapes. -/
def toAscii (text : Text) : Text :=
  text.flatMap fun point => if point.value < 128 then [point] else Text.hexEscape point.value

/-- Reads exactly `count` hexadecimal digits. -/
def hexExactly? (count : Nat) (text : Text) : Option Nat :=
  let digits := text.take count
  if digits.length == count && digits.all Markup.isHexDigit then
    some (Markup.readDigits 16 digits)
  else none

/-- An octal digit. -/
def isOctal (point : CodePoint) : Bool :=
  point.satisfies fun character => '0' ≤ character && character ≤ '7'

/-- The letters of one-character escapes with what they stand for. -/
def simpleEscapes : List (Char × Text) :=
  [('\n', []), ('\\', "\\"), ('\x27', [Text.singleQuote]), ('"', "\""), ('b', "\x08"),
    ('f', "\x0c"), ('t', "\t"), ('n', "\n"), ('r', "\r"), ('v', "\x0b"), ('a', "\x07")]

/-- Reads one escape after its backslash: what it stands for and how long it is. An escape that is
not known stands for itself with its backslash. -/
def readEscape (text : Text) : Except Text (Text × Nat) :=
  match text with
  | [] => .error "\\ at end of string"
  | .surrogate offset :: _ => .ok ([.scalar '\\', .surrogate offset], 1)
  | .scalar letter :: rest =>
    let coded (count : Nat) (failure : Text) : Except Text (Text × Nat) :=
      match hexExactly? count rest with
      | none => .error failure
      | some number =>
        match CodePoint.ofNat? number with
        | some point => .ok ([point], count + 1)
        | none => .error "illegal Unicode character"
    match simpleEscapes.lookup letter with
    | some found => .ok (found, 1)
    | none =>
      if isOctal (.scalar letter) then
        let digits := (.scalar letter :: rest.take 2).takeWhile isOctal
        .ok ((CodePoint.ofNat? (Markup.readDigits 8 digits)).toList, digits.length)
      else if letter == 'x' then coded 2 "truncated \\xXX escape"
      else if letter == 'u' then coded 4 "truncated \\uXXXX escape"
      else if letter == 'U' then coded 8 "truncated \\UXXXXXXXX escape"
      else if letter == 'N' then
        let name := rest.drop 1
        if rest.head? == some (.scalar '\x7b') && name.contains (.scalar '\x7d') &&
            name.head? != some (.scalar '\x7d') then
          .error "unknown Unicode character name"
        else .error "malformed \\N character escape"
      else .ok ([.scalar '\\', .scalar letter], 1)

/-- Reads the escapes of an ASCII text; the first argument bounds the steps. -/
def readEscapes : (bound : Nat) → Text → Except Text Text
  | 0, _ => .ok []
  | _ + 1, [] => .ok []
  | bound + 1, point :: rest =>
    if point = .scalar '\\' then do
      let (found, length) ← readEscape rest
      let after ← readEscapes bound (rest.drop length)
      .ok (found ++ after)
    else do
      let after ← readEscapes bound rest
      .ok (point :: after)

/-- The value of a quoted text from its content. -/
def textValue (content : Text) : Except Text Text :=
  let ascii := toAscii content
  readEscapes (ascii.length + 1) ascii

end PageTemplates.Template
