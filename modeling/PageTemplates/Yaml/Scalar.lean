import PageTemplates.Data
import PageTemplates.Number.Read
import PageTemplates.Text.Case
import PageTemplates.Yaml.Tag
import PageTemplates.Yaml.Cursor

/-!
The data of scalars. A scalar whose form is not that of its tag fails as reading the number, word or date
does; only for binary data that is a fault of the document.
-/

namespace PageTemplates.Yaml.Scalar

/-- Data that cannot be made. -/
def failing {Result : Type} (failure : Failure) : Reading Result := .error (.failed failure)

/-- A text without its underscores. -/
def withoutUnderscores (text : Text) : Text := text.filter fun point => point != .scalar '_'

/-- A text that has a first character, without the sign that this may be. -/
def takeSign (text : Text) : Reading (Bool × Text) :=
  match text with
  | [] => failing (.missingIndex "string index out of range")
  | .scalar '-' :: rest => .ok (true, rest)
  | .scalar '+' :: rest => .ok (false, rest)
  | text => .ok (false, text)

/-- A whole number in a base. -/
def readInt (base : Nat) (text : Text) : Reading Int :=
  match Number.readInt? base text with
  | some number => .ok number
  | none =>
    failing (.wrongValue ("invalid literal for int() with base " ++ Text.ofNat base ++ ": " ++
      Text.quoted text))

/-- A floating-point number. -/
def readFloat (text : Text) : Reading Float :=
  match Number.readFloat? text with
  | some number => .ok number
  | none => failing (.wrongValue ("could not convert string to float: " ++ Text.quoted text))

/-- A whole number without its sign: the first characters tell the base. -/
def magnitude (text : Text) : Reading Int := do
  match text with
  | [] => failing (.missingIndex "string index out of range")
  | [.scalar '0'] => .ok 0
  | .scalar '0' :: .scalar 'b' :: digits => readInt 2 digits
  | .scalar '0' :: .scalar 'x' :: digits => readInt 16 digits
  | .scalar '0' :: _ => readInt 8 text
  | _ =>
    if List.contains text (.scalar ':') then
      let parts ← (Text.splitAll ":" text).mapM (readInt 10)
      .ok (parts.foldl (fun number part => number * 60 + part) 0)
    else readInt 10 text

/-- A whole number. -/
def int (text : Text) : Reading Data := do
  let (negative, digits) ← takeSign (withoutUnderscores text)
  let number ← magnitude digits
  return .int (if negative then -number else number)

/-- A number in base sixty from its digits, the last one first. -/
def sumSixtieths : (digits : List Float) → (unit : Nat) → (so : Float) → Float
  | [], _, so => so
  | digit :: digits, unit, so =>
    sumSixtieths digits (unit * 60) (so + digit * (Number.ofInt? unit).getD 0)

/-- A floating-point number. -/
def float (text : Text) : Reading Data := do
  let (negative, digits) ← takeSign (Text.lower (withoutUnderscores text))
  if digits = (".nan" : Text) then return .float Number.notANumber
  let number ←
    if digits = (".inf" : Text) then .ok (Number.infinity false)
    else if List.contains digits (.scalar ':') then do
      let parts ← (Text.splitAll ":" digits).mapM readFloat
      .ok (sumSixtieths parts.reverse 1 0)
    else readFloat digits
  return .float (if negative then -number else number)

/-- A truth value. -/
def bool (text : Text) : Reading Data :=
  let word := Text.lower text
  if List.contains (["yes", "true", "on"] : List Text) word then .ok (.bool true)
  else if List.contains (["no", "false", "off"] : List Text) word then .ok (.bool false)
  else failing (.missingKey (Text.quoted word))

/-- What a character of binary data amounts to. -/
def sextet? (point : CodePoint) : Option Nat :=
  match point with
  | .scalar character =>
    if 'A' ≤ character && character ≤ 'Z' then some (character.toNat - 'A'.toNat)
    else if 'a' ≤ character && character ≤ 'z' then some (character.toNat - 'a'.toNat + 26)
    else if character.isDigit then some (character.toNat - '0'.toNat + 52)
    else if character == '+' then some 62
    else if character == '/' then some 63
    else none
  | .surrogate _ => none

/-- Reads binary data, four characters for three bytes. `count` is how many characters of the four are
read, `kept` holds the bits that make no byte yet, and `padding` counts the equals signs since the last of
them. Other characters are passed over, and all that follows enough equals signs. -/
def readBinary (count kept padding : Nat) : Text → Reading Bytes
  | [] => if count == 0 then .ok [] else malformed
  | point :: rest =>
    if point = .scalar '=' then
      if 2 ≤ count && 4 ≤ count + padding + 1 then .ok []
      else readBinary count kept (if 2 ≤ count then padding + 1 else padding) rest
    else
      match sextet? point with
      | none => readBinary count kept padding rest
      | some bits =>
        match count with
        | 0 => readBinary 1 bits 0 rest
        | 1 => do
          return UInt8.ofNat (kept * 4 + bits / 16) :: (← readBinary 2 (bits % 16) 0 rest)
        | 2 => do
          return UInt8.ofNat (kept * 16 + bits / 4) :: (← readBinary 3 (bits % 4) 0 rest)
        | _ => do return UInt8.ofNat (kept * 64 + bits) :: (← readBinary 0 0 0 rest)

/-- Binary data. -/
def binary (text : Text) : Reading Data :=
  if text.all fun point => point.value < 0x80 then do return .bytes (← readBinary 0 0 0 text)
  else malformed

/-- A date. -/
def date (year month day : Nat) : Reading Date :=
  if year == 0 then failing (.wrongValue "year 0 is out of range")
  else if month == 0 || 12 < month then failing (.wrongValue "month must be in 1..12")
  else if Calendar.isDate year month day then .ok ⟨year, month, day⟩
  else failing (.wrongValue "day is out of range for month")

/-- An offset from universal time, which is less than a day. -/
def offset (seconds : Int) : Reading Int :=
  if seconds.natAbs < 86400 then .ok seconds
  else
    failing (.wrongValue ("offset must be a timedelta strictly between " ++
      "-timedelta(hours=24) and timedelta(hours=24), not " ++ Data.quotedSpan seconds ++ "."))

/-- The first six digits of a fraction, as millionths. -/
def millionths (digits : Text) : Nat :=
  Markup.readDigits 10 ((digits ++ Text.repeated 6 "0").take 6)

/-- A date, or a date and time. -/
def timestamp (text : Text) : Reading Data := do
  match Tag.readStamp? text with
  | none => failing (.missingAttribute "NoneType" "groupdict")
  | some stamp =>
    match stamp.time with
    | none => return .date (← date stamp.year stamp.month stamp.day)
    | some (hour, minute, second, fraction, given) =>
      let shift ← match given with
        | some seconds => do pure (some (← offset seconds))
        | none => pure none
      let day ← date stamp.year stamp.month stamp.day
      if 23 < hour then failing (.wrongValue "hour must be in 0..23")
      if 59 < minute then failing (.wrongValue "minute must be in 0..59")
      if 59 < second then failing (.wrongValue "second must be in 0..59")
      return .datetime ⟨day, hour, minute, second, millionths fraction, shift⟩

/-- The data of a text under a tag of the standard, if the tag is one for scalars. -/
def data? (tag : String) (text : Text) : Option (Reading Data) :=
  match tag with
  | "null" => some (.ok .none)
  | "bool" => some (bool text)
  | "int" => some (int text)
  | "float" => some (float text)
  | "binary" => some (binary text)
  | "timestamp" => some (timestamp text)
  | "str" => some (.ok (.text text))
  | _ => none

end PageTemplates.Yaml.Scalar
