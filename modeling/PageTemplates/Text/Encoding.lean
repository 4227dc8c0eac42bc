import PageTemplates.Text.Case
import PageTemplates.Text.Utf8

/-!
Encodings by name, and what stands for the parts that an encoding cannot express. In UTF-8 these are
lone surrogates and ill-formed bytes; the encodings of single bytes end at a number.
-/

namespace PageTemplates.Text

/-- The encodings. -/
inductive Encoding where
  | utf8
  | ascii
  | latin1
  deriving DecidableEq

/-- What is done with a part that cannot be expressed: it is a fault, it is left out, or something
stands for it. -/
inductive Fallback where
  | refuse
  | leaveOut
  | mark
  | reference
  | escape
  deriving DecidableEq

namespace Encoding

/-- The name of an encoding in messages. -/
def name : Encoding → Text
  | .utf8 => "utf-8"
  | .ascii => "ascii"
  | .latin1 => "latin-1"

/-- Why an encoding cannot express a code point. -/
def limitReason : Encoding → Text
  | .utf8 => "surrogates not allowed"
  | .ascii => "ordinal not in range(128)"
  | .latin1 => "ordinal not in range(256)"

/-- The names of each encoding, in small letters with low lines between words. -/
def names : List (Encoding × List String) :=
  [ (.utf8, ["utf_8", "utf8", "u8", "utf", "cp65001"]),
    (.ascii, ["ascii", "us_ascii", "646", "us", "iso646_us", "cp367"]),
    (.latin1,
      ["latin_1", "latin1", "latin", "l1", "iso8859_1", "iso_8859_1", "iso8859", "8859", "cp819"]) ]

/-- The encoding of a name, in which case does not matter, nor which mark stands between words. -/
def ofName? (name : Text) : Option Encoding :=
  let plain := (lower name).map fun point =>
    if point = .scalar '-' || point = .scalar ' ' then .scalar '_' else point
  (names.find? fun (_, known) => known.any fun other => ofString other = plain).map Prod.fst

/-- Whether an encoding can express a code point. -/
def has (encoding : Encoding) (point : CodePoint) : Bool :=
  match encoding with
  | .utf8 => !isSurrogate point
  | .ascii => point.value < 128
  | .latin1 => point.value < 256

/-- The bytes of a code point that the encoding can express. -/
def bytesOf (encoding : Encoding) (point : CodePoint) : Bytes :=
  match encoding, point with
  | .utf8, .scalar character => encodeChar character
  | _, point => [point.value.toUInt8]

/-- Encodes from a given place on. -/
def encodeFrom (encoding : Encoding) (fallback : Fallback) :
    (place : Nat) → Text → Except EncodeFault Bytes
  | _, [] => .ok []
  | place, point :: rest => do
    let bytes ←
      if encoding.has point then .ok (encoding.bytesOf point)
      else
        match fallback with
        | .refuse => .error ⟨place, 1 + (rest.takeWhile (!encoding.has ·)).length, point⟩
        | .leaveOut => .ok []
        | .mark => .ok (asciiBytes "?")
        | .reference => .ok (asciiBytes ("&#" ++ Text.ofNat point.value ++ ";"))
        | .escape => .ok (asciiBytes (hexEscape point.value))
    return bytes ++ (← encodeFrom encoding fallback (place + 1) rest)
where
  /-- The bytes of a text within ASCII. -/
  asciiBytes (text : Text) : Bytes := text.map fun point => point.value.toUInt8

/-- The bytes of a text. -/
def encode (encoding : Encoding) (fallback : Fallback) (text : Text) : Except EncodeFault Bytes :=
  encoding.encodeFrom fallback 0 text

/-- The character that a first byte begins, how many bytes it has and what follows it; or how many
bytes are at fault, and why. -/
def takeChar (encoding : Encoding) (first : UInt8) (rest : Bytes) :
    Except (Nat × DecodeReason) (Char × Nat × Bytes) :=
  match encoding with
  | .utf8 => Text.takeChar first rest
  | .latin1 => .ok (Char.ofNat first.toNat, 1, rest)
  | .ascii =>
    if first < 128 then .ok (Char.ofNat first.toNat, 1, rest) else .error (1, .notAscii)

/-- Decodes from a given place on; the first argument bounds the number of characters. -/
def decodeFrom (encoding : Encoding) (fallback : Fallback) :
    (bound place : Nat) → Bytes → Except DecodeFault Text
  | 0, _, _ => .ok []
  | _ + 1, _, [] => .ok []
  | bound + 1, place, first :: rest => do
    let (part, size) ←
      match encoding.takeChar first rest with
      | .ok (character, size, _) => .ok ([CodePoint.scalar character], size)
      | .error (count, reason) =>
        match fallback with
        | .leaveOut => .ok ([], count)
        | .mark => .ok ([CodePoint.scalar '\ufffd'], count)
        | .escape => .ok (((first :: rest).take count).flatMap fun byte => hexEscape byte.toNat, count)
        | _ => .error ⟨place, count, first, reason⟩
    return part ++ (← decodeFrom encoding fallback bound (place + size) (rest.drop (size - 1)))

/-- The text of bytes. -/
def decode (encoding : Encoding) (fallback : Fallback) (bytes : Bytes) : Except DecodeFault Text :=
  encoding.decodeFrom fallback bytes.length 0 bytes

end Encoding

namespace Fallback

/-- The fallback of a name. -/
def ofName? (name : Text) : Option Fallback :=
  [("strict", refuse), ("ignore", leaveOut), ("replace", mark), ("xmlcharrefreplace", reference),
    ("backslashreplace", escape)].findSome? fun (known, fallback) =>
      if ofString known = name then some fallback else none

end Fallback

end PageTemplates.Text
