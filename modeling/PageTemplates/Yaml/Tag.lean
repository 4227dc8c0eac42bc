import PageTemplates.Markup.Escape
import PageTemplates.Text.Search

/-!
The tags of YAML 1.1 and the tag that a plain scalar has by its form. The first character of a scalar
decides which forms come into question.
-/

namespace PageTemplates.Yaml.Tag

/-- What the tags of the standard start with. -/
def standard : Text := "tag:yaml.org,2002:"

/-- A tag of the standard. -/
def ofName (name : String) : Text := standard ++ Text.ofString name

/-- The name of a tag of the standard. -/
def name? (tag : Text) : Option String :=
  (Text.dropOpening? standard tag).bind fun rest => Text.toString? rest

/-- Digits of a number, with underscores among them. -/
def isSpacedDigit (point : CodePoint) : Bool := Markup.isAsciiDigit point || point = .scalar '_'

/-- Digits in base two, with underscores among them. -/
def isBinaryDigit (point : CodePoint) : Bool :=
  point = .scalar '0' || point = .scalar '1' || point = .scalar '_'

/-- Digits in base eight, with underscores among them. -/
def isOctalDigit (point : CodePoint) : Bool :=
  point.satisfies fun character => ('0' ≤ character && character ≤ '7') || character == '_'

/-- Digits in base sixteen, with underscores among them. -/
def isHexDigit (point : CodePoint) : Bool := Markup.isHexDigit point || point = .scalar '_'

/-- Whether all characters of a text that is not empty pass a test. -/
def allOf (test : CodePoint → Bool) (text : Text) : Bool := !text.isEmpty && text.all test

/-- A text without the sign in front. -/
def unsigned : Text → Text
  | .scalar '-' :: rest => rest
  | .scalar '+' :: rest => rest
  | text => text

/-- Whether a text is one digit up to nine, or two up to fifty-nine. -/
def isSixtieth (text : Text) : Bool :=
  match text with
  | [digit] => Markup.isAsciiDigit digit
  | [tens, digit] =>
    (tens.satisfies fun character => '0' ≤ character && character ≤ '5') &&
      Markup.isAsciiDigit digit
  | _ => false

/-- Whether a text is a number in base sixty: parts between colons, of which the first passes a test. -/
def isSexagesimal (first : Text → Bool) (text : Text) : Bool :=
  match Text.splitAll ":" text with
  | leading :: part :: parts => first leading && (part :: parts).all isSixtieth
  | _ => false

/-- Whether a text is digits that start with none of the zero, underscores among them. -/
def isDecimal (text : Text) : Bool :=
  match text with
  | digit :: rest =>
    Markup.isAsciiDigit digit && digit != .scalar '0' && rest.all isSpacedDigit
  | [] => false

/-- Whether a text is digits with underscores behind the first. -/
def isSpacedNumber (text : Text) : Bool :=
  match text with
  | digit :: rest => Markup.isAsciiDigit digit && rest.all isSpacedDigit
  | [] => false

/-- Whether a text has the form of a whole number. -/
def isInt (text : Text) : Bool :=
  let text := unsigned text
  match text with
  | [.scalar '0'] => true
  | .scalar '0' :: .scalar 'b' :: rest => allOf isBinaryDigit rest
  | .scalar '0' :: .scalar 'x' :: rest => allOf isHexDigit rest
  | .scalar '0' :: rest => allOf isOctalDigit rest
  | _ => isDecimal text || isSexagesimal isDecimal text

/-- Whether a text is empty or an exponent with its sign. -/
def isExponent : Text → Bool
  | [] => true
  | letter :: sign :: digits =>
    (letter = .scalar 'e' || letter = .scalar 'E') &&
      (sign = .scalar '+' || sign = .scalar '-') && allOf Markup.isAsciiDigit digits
  | _ => false

/-- Whether a text has the form of a floating-point number. -/
def isFloat (text : Text) : Bool :=
  let number := unsigned text
  match text with
  | .scalar '.' :: digit :: rest =>
    (Markup.isAsciiDigit digit && isExponent (rest.dropWhile isSpacedDigit)) ||
      List.contains (["nan", "NaN", "NAN", "inf", "Inf", "INF"] : List Text) (digit :: rest)
  | _ =>
    match number with
    | .scalar '.' :: rest => List.contains (["inf", "Inf", "INF"] : List Text) rest
    | _ =>
      match Text.splitFirst? "." number with
      | some (whole, rest) =>
        (isSpacedNumber whole && isExponent (rest.dropWhile isSpacedDigit)) ||
          (isSexagesimal isSpacedNumber whole && rest.all isSpacedDigit)
      | none => false

/-- The parts of a date, and of a time if there is one: hour, minute and second, the digits of a fraction
and the offset from universal time in seconds. -/
structure Stamp where
  year : Nat
  month : Nat
  day : Nat
  time : Option (Nat × Nat × Nat × Text × Option Int)

/-- Reads digits: at least one number of them and at most another. -/
def takeDigits? (least most : Nat) (text : Text) : Option (Nat × Text) :=
  let digits := (text.take most).takeWhile Markup.isAsciiDigit
  if digits.length < least then none
  else some (Markup.readDigits 10 digits, text.drop digits.length)

/-- Reads a certain character. -/
def takePoint? (point : CodePoint) (text : Text) : Option Text :=
  match text with
  | first :: rest => if first = point then some rest else none
  | [] => none

/-- A blank within a stamp. -/
def isStampBlank (point : CodePoint) : Bool := point = .scalar ' ' || point = .scalar '\t'

/-- Reads the offset at the end of a stamp. -/
def readOffset? (text : Text) : Option (Option Int) := do
  match text.dropWhile isStampBlank with
  | [] => if text.isEmpty then some none else none
  | [.scalar 'Z'] => some (some 0)
  | sign :: rest =>
    let negative ←
      if sign = .scalar '-' then some true else if sign = .scalar '+' then some false else none
    let (hours, rest) ← takeDigits? 1 2 rest
    let minutes ← match rest with
      | [] => some 0
      | rest => do
        let (minutes, rest) ← takeDigits? 2 2 (← takePoint? ':' rest)
        if rest.isEmpty then some minutes else none
    let seconds := Int.ofNat (hours * 3600 + minutes * 60)
    some (some (if negative then -seconds else seconds))

/-- Reads what comes between date and time. -/
def takeBetween? (text : Text) : Option Text :=
  match text with
  | .scalar 'T' :: rest => some rest
  | .scalar 't' :: rest => some rest
  | point :: rest => if isStampBlank point then some (rest.dropWhile isStampBlank) else none
  | [] => none

/-- Reads a date with or without a time. -/
def readStamp? (text : Text) : Option Stamp := do
  let (year, rest) ← takeDigits? 4 4 text
  let (month, rest) ← takeDigits? 1 2 (← takePoint? '-' rest)
  let (day, rest) ← takeDigits? 1 2 (← takePoint? '-' rest)
  if rest.isEmpty then some ⟨year, month, day, none⟩
  else
    let (hour, rest) ← takeDigits? 1 2 (← takeBetween? rest)
    let (minute, rest) ← takeDigits? 2 2 (← takePoint? ':' rest)
    let (second, rest) ← takeDigits? 2 2 (← takePoint? ':' rest)
    let (fraction, rest) := match rest with
      | .scalar '.' :: rest =>
        let digits := rest.takeWhile Markup.isAsciiDigit
        (digits, rest.drop digits.length)
      | rest => ([], rest)
    some ⟨year, month, day, some (hour, minute, second, fraction, ← readOffset? rest)⟩

/-- Whether a text has the form of a date or of a date and time. A date alone is written in full. -/
def isStamp (text : Text) : Bool :=
  match readStamp? text with
  | some stamp => stamp.time.isSome || text.length == 10
  | none => false

/-- The words for truth values, in the cases they may be written in. -/
def truthWords : List Text :=
  [ "yes", "Yes", "YES", "no", "No", "NO", "true", "True", "TRUE", "false", "False", "FALSE", "on",
    "On", "ON", "off", "Off", "OFF" ]

/-- The words for nothing. -/
def nullWords : List Text := ["", "~", "null", "Null", "NULL"]

/-- The tag of a plain scalar. -/
def ofPlain (text : Text) : Text :=
  if List.contains truthWords text then ofName "bool"
  else if List.contains nullWords text then ofName "null"
  else if isFloat text then ofName "float"
  else if isInt text then ofName "int"
  else if isStamp text then ofName "timestamp"
  else if text = ("<<" : Text) then ofName "merge"
  else if text = ("=" : Text) then ofName "value"
  else if List.contains (["!", "&", "*"] : List Text) text then ofName "yaml"
  else ofName "str"

end PageTemplates.Yaml.Tag
