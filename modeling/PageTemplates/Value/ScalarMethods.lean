import PageTemplates.Value.Arity
import PageTemplates.Value.Convert
import PageTemplates.Value.TextMethods

/-!
The methods of numbers, byte strings, and dates with or without times.
-/

namespace PageTemplates.ScalarMethods

open Run

/-- The failure of a method that is listed but that nothing here can do. -/
def unsupported (method : String) : Run Value :=
  fail ⟨.unsupported, "method " ++ Text.ofString method ++ " is not supported"⟩

/-- The bits of a number, lowest first. The first argument bounds their count. -/
def bits : (bound : Nat) → Nat → List Bool
  | 0, _ => []
  | bound + 1, number =>
    if number == 0 then [] else (number % 2 == 1) :: bits bound (number / 2)

/-- The bits of the size of a whole number. -/
def bitsOf (number : Int) : List Bool := bits (number.natAbs.log2 + 1) number.natAbs

/-- Calls a method of a whole number, or of a truth value as one. -/
def callInt (owner : Text) (number : Int) (method : String) (given : Given) : Run Value := do
  Arity.none owner (Text.ofString method) given
  match method with
  | "bit_length" => return .int (bitsOf number).length
  | "bit_count" => return .int ((bitsOf number).count true)
  | "conjugate" => return .int number
  | "as_integer_ratio" => return .tuple [.int number, .int 1]
  | _ => unsupported method

/-- A floating-point number in base sixteen: all places of the fraction and the exponent of two. -/
def hexFloat (number : Float) : Text :=
  let sign (negative : Bool) : Text := if negative then "-" else []
  match Number.parts number with
  | .undefined => "nan"
  | .infinite negative => sign negative ++ "inf"
  | .finite negative significand exponent =>
    if significand == 0 then sign negative ++ "0x0.0p+0"
    else
      let whole := significand / Nat.pow 2 52
      let power := exponent + 52
      sign negative ++ "0x" ++ Text.ofNat whole ++ "." ++
        Text.ofChars (Text.hexDigits 13 (significand % Nat.pow 2 52)) ++ "p" ++
        (if power < 0 then [] else "+" : Text) ++ Text.ofInt power

/-- Calls a method of a floating-point number. -/
def callFloat (number : Float) (method : String) (given : Given) : Run Value := do
  Arity.none "float" (Text.ofString method) given
  match method with
  | "conjugate" => return .float number
  | "hex" => return .text (hexFloat number)
  | "is_integer" =>
    match Number.asQuotient? number with
    | some (numerator, denominator) => return .bool (numerator % denominator == 0)
    | none => return .bool false
  | "as_integer_ratio" =>
    match Number.asQuotient? number with
    | some (numerator, denominator) =>
      let common := Nat.gcd numerator.natAbs denominator
      return .tuple [.int (numerator / common), .int (Int.ofNat (denominator / common))]
    | none =>
      if number.isNaN then fail (.wrongValue "cannot convert NaN to integer ratio")
      else fail ⟨.overflow, "cannot convert Infinity to integer ratio"⟩
  | _ => unsupported method

/-- The text of bytes in which every byte is one character. -/
def wide (bytes : Bytes) : Text := bytes.map fun byte => .scalar (Char.ofNat byte.toNat)

/-- Whether all bytes pass, and there is one. -/
def everyByte (test : Char → Bool) (bytes : Bytes) : Bool :=
  !bytes.isEmpty && bytes.all fun byte => test (Char.ofNat byte.toNat)

/-- The bytes that are blank. -/
def isByteBlank (point : CodePoint) : Bool :=
  point.value == 0x20 || (0x9 ≤ point.value && point.value ≤ 0xD)

/-- A byte string, or a number for one byte, as a text. -/
def searched (value : Value) : Run Value := do
  match value with
  | .bytes part => return .text (wide part)
  | .int number =>
    if 0 ≤ number && number < 256 then return .text [.scalar (Char.ofNat number.toNat)]
    else fail (.wrongValue "byte must be in range(0, 256)")
  | other =>
    fail (.wrongType ("argument should be integer or bytes-like object, not '" ++
      (← className other) ++ "'"))

/-- The arguments of a search in a byte string. -/
def searchArguments (method : Text) (given : Given) : Run (List Value) := do
  match ← Arity.taking "bytes" method 1 3 given with
  | value :: bounds => return (← searched value) :: bounds
  | [] => return []

/-- The text of bytes; of anything else it is said what stands in place of bytes. -/
def bytesText (before after : Text) (value : Value) : Run Text := do
  match value with
  | .bytes part => return wide part
  | other => fail (.wrongType (before ++ (← className other) ++ after))

/-- An operand that has to be bytes. -/
def bytesOperand (value : Value) : Run Text :=
  bytesText "a bytes-like object is required, not '" "'" value

/-- Whether a byte string begins or ends with one of the given ones. -/
def startsOrEnds (atEnd : Bool) (method : Text) (bytes : Bytes) (given : Given) : Run Value := do
  let complaint := method ++ " first arg must be bytes or a tuple of bytes, not "
  match ← Arity.taking "bytes" method 1 3 given with
  | [] => return .bool false
  | value :: bounds =>
    let wanted ← match value with
      | .tuple parts => do pure (Value.tuple ((← parts.mapM (bytesText complaint [])).map .text))
      | other => do pure (Value.text (← bytesText complaint [] other))
    return .bool (← TextMethods.startsOrEnds atEnd method (wide bytes) (wanted :: bounds))

/-- The bytes of a text of bytes. -/
def narrow (text : Text) : Value := .bytes (text.map fun point => point.value.toUInt8)

section

variable (bytes : Bytes) (name : Text) (given : Given)

/-- Bytes with every character changed. -/
def changed (change : Char → Char) : Run Value := do
  Arity.none "bytes" name given
  return narrow ((wide bytes).map fun point => .scalar (change (Char.ofNat point.value)))

/-- Where bytes occur, or minus one. -/
def placeOf (last : Bool) : Run Value := do
  let found ← TextMethods.search last (wide bytes) (← searchArguments name given)
  return .int ((found.map Int.ofNat).getD (-1))

/-- Where bytes occur, which they must. -/
def indexIn (last : Bool) : Run Value := do
  match ← TextMethods.search last (wide bytes) (← searchArguments name given) with
  | some place => return .int place
  | none => fail (.wrongValue "subsection not found")

/-- How often bytes occur. -/
def countParts : Run Value := do
  match ← searchArguments name given with
  | value :: bounds =>
    let inside ← TextMethods.window (wide bytes) bounds
    let part := value.text?.getD []
    return .int ((inside.map fun (_, inside) => Text.occurrences part inside).getD 0)
  | [] => return .int 0

/-- Replaces parts of bytes. -/
def replaceParts : Run Value := do
  match ← Arity.between "bytes" name 2 2 given with
  | [old, new] =>
    return narrow (Text.replace (wide bytes) (← bytesOperand old) (← bytesOperand new) none)
  | _ => return .none

/-- The parts of bytes between separators. -/
def splitParts : Run Value := do
  match ← Arity.between "bytes" name 0 1 given with
  | separator :: _ =>
    newList ((Text.splitAll (← bytesOperand separator) (wide bytes)).map narrow)
  | [] => newList ((Text.words (wide bytes)).map narrow)

/-- The bytes that a trim takes away. -/
def trimSet : Run (CodePoint → Bool) := do
  match ← Arity.between "bytes" name 0 1 given with
  | [] => return isByteBlank
  | .none :: _ => return isByteBlank
  | value :: _ =>
    let points ← bytesOperand value
    return fun point => List.contains points point

end

/-- Calls a method of a byte string. -/
def callBytes (bytes : Bytes) (method : String) (given : Given) : Run Value := do
  let name := Text.ofString method
  match method with
  | "decode" => TextMethods.decoded bytes given
  | "hex" =>
    Arity.none "bytes" name given
    return .text (bytes.flatMap fun byte => Text.ofChars (Text.hexDigits 2 byte.toNat))
  | "upper" => changed bytes name given Char.toUpper
  | "lower" => changed bytes name given Char.toLower
  | "isdigit" => return .bool (everyByte Char.isDigit bytes)
  | "isalpha" => return .bool (everyByte Char.isAlpha bytes)
  | "isalnum" => return .bool (everyByte Char.isAlphanum bytes)
  | "startswith" => startsOrEnds false name bytes given
  | "endswith" => startsOrEnds true name bytes given
  | "find" => placeOf bytes name given false
  | "rfind" => placeOf bytes name given true
  | "index" => indexIn bytes name given false
  | "rindex" => indexIn bytes name given true
  | "count" => countParts bytes name given
  | "replace" => replaceParts bytes name given
  | "split" => splitParts bytes name given
  | "strip" => return narrow (Text.dropEnds (← trimSet name given) (wide bytes))
  | "lstrip" => return narrow ((wide bytes).dropWhile (← trimSet name given))
  | "rstrip" => return narrow (Text.dropEnd (← trimSet name given) (wide bytes))
  | _ => unsupported method

/-- An argument of a method that is a text. -/
def readText (method : Text) (value : Value) : Run Text := do
  match value.text? with
  | some text => return text
  | none => fail (.wrongType (method ++ "() argument 1 must be str, not " ++ (← className value)))

/-- The single text argument of a method, which may be given by name. -/
def textArgument (method parameter : Text) (given : Given) : Run Text := do
  let missing :=
    Failure.wrongType (method ++ "() missing required argument '" ++ parameter ++ "' (pos 1)")
  let count := given.positional.length + given.named.length
  if 1 < count then
    fail (.wrongType (method ++ "() takes at most 1 argument (" ++ Text.ofNat count ++ " given)"))
  match given.positional, given.named with
  | value :: _, _ => readText method value
  | [], (name, value) :: _ => if name = parameter then readText method value else fail missing
  | [], [] => fail missing

/-- A part of a date that a replacement gives or leaves. -/
def replacedPart (given : Given) (place : Nat) (name : String) (old : Nat) : Run Int := do
  match given.positional[place]?, given.named.lookup (Text.ofString name) with
  | some value, _ => toIndex value
  | none, some value => toIndex value
  | none, none => return old

/-- A date with some of its parts replaced. -/
def replacedDate (date : Date) (given : Given) : Run Date := do
  let year ← replacedPart given 0 "year" date.year
  let month ← replacedPart given 1 "month" date.month
  let day ← replacedPart given 2 "day" date.day
  if year < 1 || 9999 < year then
    fail (.wrongValue ("year " ++ Text.ofInt year ++ " is out of range"))
  if month < 1 || 12 < month then fail (.wrongValue "month must be in 1..12")
  if day < 1 || day > Calendar.daysInMonth year.toNat month.toNat then
    fail (.wrongValue "day is out of range for month")
  return ⟨year.toNat, month.toNat, day.toNat⟩

/-- Day, month, time and year in fixed columns. -/
def columns (time : DateTime) : Text := Calendar.formatted time "%c"

/-- Calls a method that dates have, of a date or of a date with a time. -/
def callDate (owner : Text) (time : DateTime) (method : String) (given : Given) : Run Value := do
  let name := Text.ofString method
  let date := time.date
  match method with
  | "strftime" =>
    return .text (Calendar.formatted time (← textArgument name "format" given))
  | "isoformat" =>
    Arity.none owner name given
    return .text (Calendar.isoDate date)
  | "weekday" =>
    Arity.none owner name given
    return .int (Calendar.weekday date)
  | "isoweekday" =>
    Arity.none owner name given
    return .int (Calendar.weekday date + 1)
  | "toordinal" =>
    Arity.none owner name given
    return .int (Calendar.dayNumber date)
  | "ctime" =>
    Arity.none owner name given
    return .text (columns time)
  | "isocalendar" =>
    Arity.none owner name given
    let (year, week) := Calendar.isoWeek date
    return .tuple [.int year, .int week, .int (Calendar.weekday date + 1)]
  | "replace" => return .date (← replacedDate date given)
  | _ => unsupported method

/-- Calls a method of a date with a time. -/
def callDateTime (time : DateTime) (method : String) (given : Given) : Run Value := do
  let name := Text.ofString method
  let owner : Text := "datetime"
  match method with
  | "isoformat" =>
    let arguments ← Arity.optional name ["sep", "timespec"] given
    let separator := ((arguments.head?.getD none).bind Value.text?).getD "T"
    return .text (Calendar.isoDateTime separator time)
  | "date" =>
    Arity.none owner name given
    return .date time.date
  | "timestamp" =>
    Arity.none owner name given
    let moment := Calendar.moment time
    match Number.ofQuotient? (moment < 0) moment.natAbs 1000000 with
    | some seconds => return .float seconds
    | none => return .none
  | "utcoffset" =>
    if time.offset.isSome then unsupported method else return .none
  | "tzname" =>
    if time.offset.isSome then unsupported method else return .none
  | "dst" => return .none
  | "replace" =>
    let date ← replacedDate time.date given
    let hour ← replacedPart given 3 "hour" time.hour
    let minute ← replacedPart given 4 "minute" time.minute
    let second ← replacedPart given 5 "second" time.second
    let microsecond ← replacedPart given 6 "microsecond" time.microsecond
    if hour < 0 || 23 < hour then fail (.wrongValue "hour must be in 0..23")
    if minute < 0 || 59 < minute then fail (.wrongValue "minute must be in 0..59")
    if second < 0 || 59 < second then fail (.wrongValue "second must be in 0..59")
    if microsecond < 0 || 999999 < microsecond then
      fail (.wrongValue "microsecond must be in 0..999999")
    return .datetime ⟨date, hour.toNat, minute.toNat, second.toNat, microsecond.toNat, time.offset⟩
  | _ => callDate owner time method given

end PageTemplates.ScalarMethods
