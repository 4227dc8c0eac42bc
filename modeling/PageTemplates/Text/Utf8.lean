import PageTemplates.Text
import PageTemplates.Text.Quoted

/-!
UTF-8. A text without lone surrogates has one encoding; decoding accepts well-formed bytes alone and
says of all others where the first fault lies, how many bytes it takes and of which kind it is.
-/

namespace PageTemplates

/-- A byte string. -/
abbrev Bytes := List UInt8

namespace Text

/-- The bytes of one character. -/
def encodeChar (character : Char) : Bytes :=
  let number := character.toNat
  if number < 0x80 then [number.toUInt8]
  else if number < 0x800 then
    [(0xC0 + number / 0x40).toUInt8, (0x80 + number % 0x40).toUInt8]
  else if number < 0x10000 then
    [(0xE0 + number / 0x1000).toUInt8, (0x80 + number / 0x40 % 0x40).toUInt8,
      (0x80 + number % 0x40).toUInt8]
  else
    [(0xF0 + number / 0x40000).toUInt8, (0x80 + number / 0x1000 % 0x40).toUInt8,
      (0x80 + number / 0x40 % 0x40).toUInt8, (0x80 + number % 0x40).toUInt8]

/-- A run of lone surrogates that keeps a text from being encoded: where it starts, how long it is,
and its first member. -/
structure EncodeFault where
  start : Nat
  count : Nat
  first : CodePoint

/-- Whether a code point is a lone surrogate. -/
def isSurrogate : CodePoint → Bool
  | .surrogate _ => true
  | .scalar _ => false

/-- Encodes from a given place on. -/
def encodeFrom (place : Nat) : Text → Except EncodeFault Bytes
  | [] => .ok []
  | .scalar character :: rest =>
    match encodeFrom (place + 1) rest with
    | .ok bytes => .ok (encodeChar character ++ bytes)
    | .error fault => .error fault
  | .surrogate offset :: rest =>
    .error ⟨place, 1 + (rest.takeWhile isSurrogate).length, .surrogate offset⟩

/-- The UTF-8 form of a text. -/
def encode (text : Text) : Except EncodeFault Bytes := encodeFrom 0 text

/-- The kinds of ill-formed input: three for UTF-8, one for plain ASCII. -/
inductive DecodeReason where
  | badStart
  | badContinuation
  | cutOff
  | notAscii
  deriving DecidableEq

/-- Why bytes cannot be decoded: the place of the fault, the bytes it takes, its first byte. -/
structure DecodeFault where
  start : Nat
  count : Nat
  first : UInt8
  reason : DecodeReason

/-- Bytes that carry six bits on. -/
def isContinuation (byte : UInt8) : Bool := 0x80 ≤ byte && byte < 0xC0

/-- What a first byte calls for: how many bytes follow, and the range of the second byte, which
leaves out overlong forms, surrogates and numbers that are too large. -/
def following (first : UInt8) : Option (Nat × UInt8 × UInt8) :=
  if first < 0x80 then some (0, 0, 0)
  else if first < 0xC2 then none
  else if first < 0xE0 then some (1, 0x80, 0xBF)
  else if first = 0xE0 then some (2, 0xA0, 0xBF)
  else if first = 0xED then some (2, 0x80, 0x9F)
  else if first < 0xF0 then some (2, 0x80, 0xBF)
  else if first = 0xF0 then some (3, 0x90, 0xBF)
  else if first < 0xF4 then some (3, 0x80, 0xBF)
  else if first = 0xF4 then some (3, 0x80, 0x8F)
  else none

/-- Reads `count` more bytes of a character: the completed number and the rest, or how many bytes
were good before the fault. -/
def continuation (low high : UInt8) :
    (count good number : Nat) → Bytes → Except (Nat × DecodeReason) (Nat × Bytes)
  | 0, _, number, rest => .ok (number, rest)
  | _ + 1, good, _, [] => .error (good, .cutOff)
  | count + 1, good, number, byte :: rest =>
    if low ≤ byte && byte ≤ high then
      continuation 0x80 0xBF count (good + 1) (number * 0x40 + (byte.toNat - 0x80)) rest
    else .error (good, .badContinuation)

/-- The bits of the number that a first byte holds. -/
def leadingBits (first : UInt8) (more : Nat) : Nat :=
  match more with
  | 0 => first.toNat
  | 1 => first.toNat - 0xC0
  | 2 => first.toNat - 0xE0
  | _ => first.toNat - 0xF0

/-- The character that a first byte begins, how many bytes it has and what follows it; or how many
bytes are at fault, and why. -/
def takeChar (first : UInt8) (rest : Bytes) : Except (Nat × DecodeReason) (Char × Nat × Bytes) :=
  match following first with
  | none => .error (1, .badStart)
  | some (more, low, high) =>
    match continuation low high more 1 (leadingBits first more) rest with
    | .error fault => .error fault
    | .ok (number, after) => .ok (Char.ofNat number, 1 + more, after)

/-- Decodes from a given place on; the first argument bounds the number of characters. -/
def decodeFrom : (bound place : Nat) → Bytes → Except DecodeFault Text
  | 0, _, _ => .ok []
  | _ + 1, _, [] => .ok []
  | bound + 1, place, first :: rest =>
    match takeChar first rest with
    | .error (count, reason) => .error ⟨place, count, first, reason⟩
    | .ok (character, size, after) =>
      match decodeFrom bound (place + size) after with
      | .ok text => .ok (.scalar character :: text)
      | .error fault => .error fault

/-- The text whose UTF-8 form the bytes are. -/
def decode (bytes : Bytes) : Except DecodeFault Text := decodeFrom bytes.length 0 bytes

/-- A place, or the first and last of several. -/
def placeRange (start count : Nat) : Text :=
  ofNat start ++ (if count = 1 then "" else "-" ++ ofNat (start + count - 1) : Text)

/-- The wording of an encoding fault of an encoding, for a reason. -/
def EncodeFault.messageFor (fault : EncodeFault) (encoding reason : Text) : Text :=
  let subject : Text :=
    if fault.count = 1 then "character '" ++ hexEscape fault.first.value ++ "'" else "characters"
  "'" ++ encoding ++ "' codec can't encode " ++ subject ++ " in position " ++
    placeRange fault.start fault.count ++ ": " ++ reason

/-- The wording of an encoding fault. -/
def EncodeFault.message (fault : EncodeFault) : Text :=
  fault.messageFor "utf-8" "surrogates not allowed"

/-- The wording of a decoding fault. -/
def DecodeFault.message (fault : DecodeFault) : Text :=
  let subject : Text :=
    if fault.count = 1 then "byte 0x" ++ ofChars (hexDigits 2 fault.first.toNat) else "bytes"
  let (encoding, reason) : Text × Text := match fault.reason with
    | .badStart => ("utf-8", "invalid start byte")
    | .badContinuation => ("utf-8", "invalid continuation byte")
    | .cutOff => ("utf-8", "unexpected end of data")
    | .notAscii => ("ascii", "ordinal not in range(128)")
  "'" ++ encoding ++ "' codec can't decode " ++ subject ++ " in position " ++
    placeRange fault.start fault.count ++ ": " ++ reason

end Text

end PageTemplates
