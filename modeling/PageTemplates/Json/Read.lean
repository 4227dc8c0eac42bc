import PageTemplates.Failure
import PageTemplates.Json
import PageTemplates.Markup.Escape
import PageTemplates.Number.Decimal

/-!
Reading a JSON document. The reader takes the standard's grammar and the three names of the numbers
that are not finite. A fault names the place where the text first leaves the grammar.
-/

namespace PageTemplates.Json

/-- Where reading stopped, with the place as the number of code points before it. -/
inductive Fault where
  | expectingValue (place : Nat)
  | expectingName (place : Nat)
  | expectingColon (place : Nat)
  | expectingComma (place : Nat)
  | extraData (place : Nat)
  | openText (place : Nat)
  | badEscape (place : Nat)
  | badUnicodeEscape (place : Nat)
  | controlCharacter (place : Nat)
  | byteOrderMark
  | tooManyDigits (count : Nat)
  | tooDeep (isObject : Bool)

/-- The most digits a whole number may be written with. -/
def digitLimit : Nat := 4300

/-- How deep arrays and objects may lie within one another. -/
def nestingLimit : Nat := 990

/-- A position in the document: the place and what follows it. -/
structure Cursor where
  place : Nat
  rest : Text

/-- Moves on by a number of code points. -/
def Cursor.skip (cursor : Cursor) (count : Nat) : Cursor :=
  ⟨cursor.place + count, cursor.rest.drop count⟩

/-- The four blanks of JSON. -/
def isJsonBlank (point : CodePoint) : Bool :=
  point = .scalar ' ' || point = .scalar '\t' || point = .scalar '\n' || point = .scalar '\r'

/-- Moves to the next code point that is not blank. -/
def Cursor.skipBlanks (cursor : Cursor) : Cursor :=
  cursor.skip (cursor.rest.takeWhile isJsonBlank).length

/-- Reads four hexadecimal digits. -/
def fourDigits? (text : Text) : Option Nat :=
  let digits := text.take 4
  if digits.length == 4 && digits.all Markup.isHexDigit then some (Markup.readDigits 16 digits)
  else none

/-- A letter escape. -/
def letterEscape? : CodePoint → Option Char
  | .scalar '"' => some '"'
  | .scalar '\\' => some '\\'
  | .scalar '/' => some '/'
  | .scalar 'b' => some '\x08'
  | .scalar 'f' => some '\x0c'
  | .scalar 'n' => some '\n'
  | .scalar 'r' => some '\r'
  | .scalar 't' => some '\t'
  | _ => none

/-- Reads the second half of a pair of surrogate escapes, if the text has one. -/
def lowHalf? (rest : Text) : Option Nat :=
  match rest with
  | .scalar '\\' :: .scalar 'u' :: digits =>
    (fourDigits? digits).bind fun low =>
      if 0xDC00 ≤ low && low < 0xE000 then some low else none
  | _ => none

/-- Whether a broken escape follows the first half of a pair. -/
def brokenHalf (rest : Text) : Bool :=
  match rest with
  | .scalar '\\' :: .scalar 'u' :: digits => (digits.take 5).length == 5 && (fourDigits? digits).isNone
  | _ => false

/-- Reads a text after its opening quote, which stands at `start`. -/
def readText (start : Nat) :
    (bound : Nat) → Cursor → (done : Text) → Except Fault (Text × Cursor)
  | 0, _, _ => .error (.openText start)
  | bound + 1, cursor, done =>
    match cursor.rest with
    | [] => .error (.openText start)
    | .scalar '"' :: rest => .ok (done.reverse, ⟨cursor.place + 1, rest⟩)
    | .scalar '\\' :: [] => .error (.openText start)
    | .scalar '\\' :: .scalar 'u' :: rest =>
      if (rest.take 5).length < 5 then .error (.badUnicodeEscape (cursor.place + 1))
      else
        match fourDigits? rest with
        | none => .error (.badUnicodeEscape (cursor.place + 1))
        | some number =>
          let after := rest.drop 4
          if 0xD800 ≤ number && number < 0xDC00 && (after.take 7).length == 7 && brokenHalf after then
            .error (.badUnicodeEscape (cursor.place + 7))
          else
            match (if 0xD800 ≤ number && number < 0xDC00 && (after.take 7).length == 7 then lowHalf? after
              else none) with
            | some low =>
              let whole := 0x10000 + (number - 0xD800) * 0x400 + (low - 0xDC00)
              readText start bound (cursor.skip 12)
                ((CodePoint.ofNat? whole).getD default :: done)
            | none =>
              readText start bound (cursor.skip 6) ((CodePoint.ofNat? number).getD default :: done)
    | .scalar '\\' :: letter :: _ =>
      match letterEscape? letter with
      | some character => readText start bound (cursor.skip 2) (.scalar character :: done)
      | none => .error (.badEscape cursor.place)
    | point :: _ =>
      if point.value < 0x20 then .error (.controlCharacter cursor.place)
      else readText start bound (cursor.skip 1) (point :: done)

/-- Digits at the start of a text. -/
def leadingDigits (text : Text) : Text := text.takeWhile Markup.isAsciiDigit

/-- The exponent part of a numeral: its length and its value. -/
def exponentPart (text : Text) : Nat × Int :=
  match text with
  | .scalar letter :: rest =>
    if letter == 'e' || letter == 'E' then
      let (sign, digits) := match rest with
        | .scalar '-' :: digits => (-1, digits)
        | .scalar '+' :: digits => (1, digits)
        | digits => ((0 : Int), digits)
      let number := leadingDigits digits
      if number.isEmpty then (0, 0)
      else
        let value := Int.ofNat (Markup.readDigits 10 number)
        ((if sign == 0 then 1 else 2) + number.length, if sign == -1 then -value else value)
    else (0, 0)
  | _ => (0, 0)

/-- Reads a numeral. -/
def readNumber (cursor : Cursor) : Except Fault (Json × Cursor) :=
  let (negative, unsigned) := match cursor.rest with
    | .scalar '-' :: rest => (true, rest)
    | rest => (false, rest)
  let whole := match unsigned with
    | .scalar '0' :: _ => unsigned.take 1
    | _ => leadingDigits unsigned
  if whole.isEmpty then .error (.expectingValue cursor.place)
  else
    let signLength := if negative then 1 else 0
    let afterWhole := unsigned.drop whole.length
    let fraction := match afterWhole with
      | .scalar '.' :: rest => leadingDigits rest
      | _ => []
    let fractionLength := if fraction.isEmpty then 0 else fraction.length + 1
    let (exponentLength, exponent) := exponentPart (afterWhole.drop fractionLength)
    let after := cursor.skip (signLength + whole.length + fractionLength + exponentLength)
    if fractionLength == 0 && exponentLength == 0 then
      if digitLimit < whole.length then .error (.tooManyDigits whole.length)
      else
        let value := Int.ofNat (Markup.readDigits 10 whole)
        .ok (.int (if negative then -value else value), after)
    else
      .ok (.float (Number.ofDecimal negative (Markup.readDigits 10 (whole ++ fraction))
        (exponent - Int.ofNat fraction.length)), after)

/-- The names of constants. -/
def constants : List (String × Json) :=
  [("null", .null), ("true", .bool true), ("false", .bool false),
    ("NaN", .float Number.notANumber), ("Infinity", .float (Number.infinity false)),
    ("-Infinity", .float (Number.infinity true))]

/-- The constant that a text begins with. -/
def constant? (text : Text) : Option (Nat × Json) :=
  constants.findSome? fun (name, value) =>
    (Text.dropOpening? (Text.ofString name) text).map fun _ => (name.length, value)

/-- Puts a member into an object: a name that is there gets the new value in its old place. -/
def putMember (name : Text) (value : Json) : List (Text × Json) → List (Text × Json)
  | [] => [(name, value)]
  | (other, old) :: rest =>
    if other = name then (other, value) :: rest else (other, old) :: putMember name value rest

/-- The members of an object in the order of their first mention, each with its last value. -/
def collectMembers (members : List (Text × Json)) : List (Text × Json) :=
  members.foldl (fun done (name, value) => putMember name value done) []

mutual

/-- Reads a value; `room` is how deep arrays and objects may lie in it, and `bound` bounds the depth and
length together. -/
def readValue (room : Nat) : (bound : Nat) → Cursor → Except Fault (Json × Cursor)
  | 0, cursor => .error (.expectingValue cursor.place)
  | bound + 1, cursor =>
    match cursor.rest with
    | .scalar '"' :: _ => do
      let (content, after) ← readText cursor.place (cursor.rest.length + 1) (cursor.skip 1) []
      .ok (.text content, after)
    | .scalar '[' :: _ =>
      if room = 0 then .error (.tooDeep false)
      else
        let inner := (cursor.skip 1).skipBlanks
        match inner.rest with
        | .scalar ']' :: _ => .ok (.array [], inner.skip 1)
        | _ => readItems (room - 1) bound inner []
    | .scalar '\x7b' :: _ =>
      if room = 0 then .error (.tooDeep true)
      else
        let inner := (cursor.skip 1).skipBlanks
        match inner.rest with
        | .scalar '\x7d' :: _ => .ok (.object [], inner.skip 1)
        | _ => readMembers (room - 1) bound inner []
    | _ =>
      match constant? cursor.rest with
      | some (length, value) => .ok (value, cursor.skip length)
      | none => readNumber cursor

/-- Reads the items of an array from the first one on. -/
def readItems (room : Nat) : (bound : Nat) → Cursor → (done : List Json) → Except Fault (Json × Cursor)
  | 0, cursor, _ => .error (.expectingValue cursor.place)
  | bound + 1, cursor, done => do
    let (item, after) ← readValue room bound cursor
    let after := after.skipBlanks
    match after.rest with
    | .scalar ']' :: _ => .ok (.array (item :: done).reverse, after.skip 1)
    | .scalar ',' :: _ => readItems room bound (after.skip 1).skipBlanks (item :: done)
    | _ => .error (.expectingComma after.place)

/-- Reads the members of an object from the first name on. -/
def readMembers (room : Nat) :
    (bound : Nat) → Cursor → (done : List (Text × Json)) → Except Fault (Json × Cursor)
  | 0, cursor, _ => .error (.expectingName cursor.place)
  | bound + 1, cursor, done =>
    match cursor.rest with
    | .scalar '"' :: _ => do
      let (name, after) ← readText cursor.place (cursor.rest.length + 1) (cursor.skip 1) []
      let colon := after.skipBlanks
      match colon.rest with
      | .scalar ':' :: _ =>
        let (value, after) ← readValue room bound (colon.skip 1).skipBlanks
        let after := after.skipBlanks
        match after.rest with
        | .scalar '\x7d' :: _ =>
          .ok (.object (collectMembers ((name, value) :: done).reverse), after.skip 1)
        | .scalar ',' :: _ =>
          readMembers room bound (after.skip 1).skipBlanks ((name, value) :: done)
        | _ => .error (.expectingComma after.place)
      | _ => .error (.expectingColon colon.place)
    | _ => .error (.expectingName cursor.place)

end

/-- Reads a document: one value with blanks around it. -/
def read (text : Text) : Except Fault Json :=
  match text with
  | .scalar '\uFEFF' :: _ => .error .byteOrderMark
  | _ => do
    let (value, after) ← readValue nestingLimit (2 * text.length + 2) (Cursor.skipBlanks ⟨0, text⟩)
    let after := after.skipBlanks
    if after.rest.isEmpty then .ok value else .error (.extraData after.place)

/-- A place as line, column and count. -/
def located (what : Text) (text : Text) (place : Nat) : Text :=
  let before := text.take place
  let line := before.count (.scalar '\n') + 1
  let column := (before.reverse.takeWhile (· != .scalar '\n')).length + 1
  what ++ ": line " ++ Text.ofNat line ++ " column " ++ Text.ofNat column ++ " (char " ++
    Text.ofNat place ++ ")"

/-- The wording of a fault in a given document. -/
def Fault.message (text : Text) : Fault → Text
  | .expectingValue place => located "Expecting value" text place
  | .expectingName place => located "Expecting property name enclosed in double quotes" text place
  | .expectingColon place => located "Expecting ':' delimiter" text place
  | .expectingComma place => located "Expecting ',' delimiter" text place
  | .extraData place => located "Extra data" text place
  | .openText place => located "Unterminated string starting at" text place
  | .badEscape place => located "Invalid \\escape" text place
  | .badUnicodeEscape place => located "Invalid \\uXXXX escape" text place
  | .controlCharacter place => located "Invalid control character at" text place
  | .byteOrderMark => located "Unexpected UTF-8 BOM (decode using utf-8-sig)" text 0
  | .tooManyDigits count =>
    "Exceeds the limit (4300 digits) for integer string conversion: value has " ++
      Text.ofNat count ++ " digits; use sys.set_int_max_str_digits() to increase the limit"
  | .tooDeep isObject =>
    "maximum recursion depth exceeded while decoding a JSON " ++
      (if isObject then "object" else "array") ++ " from a unicode string"

/-- The failure that a fault is, if the text does not break the grammar there but holds what cannot be
held: a whole number with too many digits, or arrays and objects too deep within one another. -/
def Fault.failure? (fault : Fault) : Option Failure :=
  match fault with
  | .tooManyDigits _ => some ⟨.wrongValue, fault.message []⟩
  | .tooDeep _ => some ⟨.tooDeep, fault.message []⟩
  | _ => none

end PageTemplates.Json
