import PageTemplates.Data
import PageTemplates.Failure

/-!
Data that is taken apart. Its items can be gone through or printed, where either can fail: a number has no
items, and explosive data has no text. As bytes, it is what a source or a written piece consists of: bytes
stand for themselves, a number for that many zeros, and a collection for the bytes its members number.
-/

namespace PageTemplates.Data

/-- The items of data that can be gone through. -/
def items : Data → Except Failure (List Data)
  | .list items => .ok items
  | .tuple items => .ok items
  | .set items => .ok items
  | .dict entries => .ok (entries.map Prod.fst)
  | .mapping entries => .ok (entries.map Prod.fst)
  | .text value => .ok (value.map fun point => .text [point])
  | .markup value => .ok (value.map fun point => .text [point])
  | .bytes value => .ok (value.map fun byte => .int (Int.ofNat byte.toNat))
  | other => .error (.notIterable (Text.ofString other.typeName))

/-- Whether a whole number has too many digits to be printed. -/
def isOverlong (number : Int) : Bool := Nat.pow 10 4300 ≤ number.natAbs

mutual

/-- Whether a whole number that has too many digits to be printed is part of data. -/
def hasOverlong : Data → Bool
  | .int value => isOverlong value
  | .list items => anyOverlong items
  | .tuple items => anyOverlong items
  | .set items => anyOverlong items
  | .dict entries => anyEntryOverlong entries
  | .mapping entries => anyEntryOverlong entries
  | .object attributes => anyAttributeOverlong attributes
  | _ => false

/-- Whether such a number is part of an item. -/
def anyOverlong : List Data → Bool
  | [] => false
  | item :: items => hasOverlong item || anyOverlong items

/-- Whether such a number is part of a key or a value. -/
def anyEntryOverlong : List (Data × Data) → Bool
  | [] => false
  | (key, value) :: entries => hasOverlong key || hasOverlong value || anyEntryOverlong entries

/-- Whether such a number is part of an attribute. -/
def anyAttributeOverlong : List (Text × Data) → Bool
  | [] => false
  | (_, value) :: attributes => hasOverlong value || anyAttributeOverlong attributes

end

/-- The failure of printing a number with too many digits. -/
def tooManyDigits : Failure :=
  .wrongValue ("Exceeds the limit (4300 digits) for integer string conversion; " ++
    "use sys.set_int_max_str_digits() to increase the limit")

/-- The quoted form of data that can be printed. -/
def represented (data : Data) : Except Failure Text :=
  if data.hasOverlong then .error tooManyDigits else .ok data.quoted

/-- The plain form of data that can be printed. -/
def printed : Data → Except Failure Text
  | .explosive => .error (.wrongValue "cannot print")
  | other => if other.hasOverlong then .error tooManyDigits else .ok other.plain

/-- Texts out of the items of data, to be joined. -/
def joinable (data : Data) : Except Failure (List Text) := do
  let items ← data.items.mapError fun _ => .wrongType "can only join an iterable"
  items.zipIdx.mapM fun (item, place) =>
    match item.text? with
    | some content => .ok content
    | Option.none =>
      .error (.wrongType ("sequence item " ++ Text.ofNat place ++ ": expected str instance, " ++
        Text.ofString item.typeName ++ " found"))

/-- The byte that a member of a collection numbers. -/
def memberByte (member : Data) : Except Failure UInt8 :=
  let ofNumber (number : Int) : Except Failure UInt8 :=
    if 0 ≤ number && number < 256 then .ok (UInt8.ofNat number.toNat)
    else .error (.wrongValue "bytes must be in range(0, 256)")
  match member with
  | .int value => ofNumber value
  | .bool value => ofNumber (if value then 1 else 0)
  | other =>
    .error (.wrongType ("'" ++ Text.ofString other.typeName ++
      "' object cannot be interpreted as an integer"))

/-- That many zeros. -/
def zeroBytes (count : Int) : Except Failure Bytes :=
  if count < 0 then .error (.wrongValue "negative count")
  else .ok (List.replicate count.toNat 0)

/-- Data as bytes. -/
def toBytes : Data → Except Failure Bytes
  | .bytes value => .ok value
  | .text _ => .error (.wrongType "string argument without an encoding")
  | .markup _ => .error (.wrongType "string argument without an encoding")
  | .int value => zeroBytes value
  | .bool value => zeroBytes (if value then 1 else 0)
  | .list items => items.mapM memberByte
  | .tuple items => items.mapM memberByte
  | .set items => items.mapM memberByte
  | .dict entries => entries.mapM fun (key, _) => memberByte key
  | .mapping entries => entries.mapM fun (key, _) => memberByte key
  | other =>
    .error (.wrongType ("cannot convert '" ++ Text.ofString other.typeName ++ "' object to bytes"))

/-- The length of data, if it has one. -/
def length? : Data → Option Nat
  | .text value => some value.length
  | .markup value => some value.length
  | .bytes value => some value.length
  | .list items => some items.length
  | .tuple items => some items.length
  | .set items => some items.length
  | .dict entries => some entries.length
  | .mapping entries => some entries.length
  | _ => Option.none

end PageTemplates.Data
