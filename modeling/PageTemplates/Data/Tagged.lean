import PageTemplates.Data.Equal
import PageTemplates.Json
import PageTemplates.Text.Quoted

/-!
Data as JSON documents. Most data stands for itself; what JSON lacks is written as an object of one
member, whose name, the tag, says what its value stands for. Reading goes from the inside out: the
value below a tag is data already when the tag is applied to it.
-/

namespace PageTemplates.Data

/-- Bytes as pairs of hexadecimal digits. -/
def hexText (bytes : Bytes) : Text :=
  bytes.flatMap fun byte => Text.ofChars (Text.hexDigits 2 byte.toNat)

/-- What a hexadecimal digit amounts to. -/
def hexValue (point : CodePoint) : Nat :=
  if point.value ≤ '9'.toNat then point.value - '0'.toNat
  else if point.value ≤ 'F'.toNat then point.value - 'A'.toNat + 10
  else point.value - 'a'.toNat + 10

/-- The bytes that pairs of hexadecimal digits stand for. -/
def ofHexText : Text → Bytes
  | high :: low :: rest => UInt8.ofNat (hexValue high * 16 + hexValue low) :: ofHexText rest
  | _ => []

/-- A number as a natural one. -/
def natural : Data → Nat
  | .int value => value.toNat
  | _ => 0

/-- The date that year, month and day make; the later parts may be left out. -/
def dateOfParts (parts : List Nat) : Date :=
  ⟨parts.getD 0 1, parts.getD 1 1, parts.getD 2 1⟩

/-- The date and time that numbers make from the year down to the microsecond. -/
def dateTimeOfParts (parts : List Nat) : DateTime :=
  ⟨dateOfParts parts, parts.getD 3 0, parts.getD 4 0, parts.getD 5 0, parts.getD 6 0, Option.none⟩

/-- A number that is not finite, by its name. -/
def floatNamed (name : Text) : Float :=
  if name = "nan" then Number.notANumber else Number.infinity (name = ("-inf" : Text))

/-- The entries that pairs make, the later ones in place of earlier ones. -/
def entriesOfPairs (pairs : List Data) : List (Data × Data) :=
  pairs.foldl (fun entries pair =>
    match pair with
    | .list [key, value] => put key value entries
    | _ => entries) []

/-- The attributes that entries make. -/
def attributesOf (entries : List (Data × Data)) : List (Text × Data) :=
  entries.filterMap fun (name, value) => name.text?.map fun name => (name, value)

/-- The data that a tag makes of the data below it, if it is a tag for such data. -/
def tagged? (tag : String) (inner : Data) : Option Data :=
  match tag, inner with
  | "$bytes", .text hex => some (.bytes (ofHexText hex))
  | "$codepoints", .list items =>
    some (.text (items.filterMap fun item => CodePoint.ofNat? item.natural))
  | "$datetime", .list parts => some (.datetime (dateTimeOfParts (parts.map natural)))
  | "$date", .list parts => some (.date (dateOfParts (parts.map natural)))
  | "$object", .dict entries => some (.object (attributesOf entries))
  | "$markup", .text content => some (.markup content)
  | "$tuple", .list items => some (.tuple items)
  | "$pairs", .list pairs => some (.dict (entriesOfPairs pairs))
  | "$mapping", .dict entries => some (.mapping entries)
  | "$float", .text name => some (.float (floatNamed name))
  | "$opaque", _ => some .sealed
  | "$explosive", _ => some .explosive
  | "$repeat", .list [.text unit, .int count] =>
    some (.text (Text.repeated count.toNat unit))
  | _, _ => Option.none

/-- The data that entries make: a dictionary, unless a tag is all there is. -/
def ofEntries (entries : List (Data × Data)) : Data :=
  match entries with
  | [(.text name, inner)] =>
    ((Text.toString? name).bind fun tag => tagged? tag inner).getD (.dict entries)
  | _ => .dict entries

mutual

/-- The data that a tagged document stands for. -/
def ofTagged : Json → Data
  | .null => .none
  | .bool value => .bool value
  | .int value => .int value
  | .float value => .float value
  | .text value => .text value
  | .array items => .list (ofTaggedItems items)
  | .object members => ofEntries (ofTaggedMembers members)

/-- The data of each item. -/
def ofTaggedItems : List Json → List Data
  | [] => []
  | item :: items => ofTagged item :: ofTaggedItems items

/-- The entry of each member. -/
def ofTaggedMembers : List (Text × Json) → List (Data × Data)
  | [] => []
  | (name, value) :: members => (.text name, ofTagged value) :: ofTaggedMembers members

end

/-- A document under a tag. -/
def tag (name : String) (inner : Json) : Json := .object [(Text.ofString name, inner)]

/-- A text; one with surrogates is given by its code points. -/
def taggedText (text : Text) : Json :=
  if text.any Text.isSurrogate then
    tag "$codepoints" (.array (text.map fun point => .int (Int.ofNat point.value)))
  else .text text

/-- A number; one that is not finite is given by its name. -/
def taggedFloat (number : Float) : Json :=
  if number.isNaN then tag "$float" (.text "nan")
  else if number.isInf then tag "$float" (.text (if 0 < number then "inf" else "-inf"))
  else .float number

/-- Entries as an object, or as pairs if not every key is a text. -/
def taggedEntries (entries : List (Option Text × Json × Json)) : Json :=
  match entries.mapM fun (name, _, value) => name.map fun name => (name, value) with
  | some members => .object members
  | Option.none => tag "$pairs" (.array (entries.map fun (_, key, value) => .array [key, value]))

mutual

/-- The tagged document for data. Objects are given by the name of their class. -/
def toTagged : Data → Json
  | .none => .null
  | .bool value => .bool value
  | .int value => .int value
  | .float value => taggedFloat value
  | .text value => taggedText value
  | .markup value => tag "$markup" (taggedText value)
  | .bytes value => tag "$bytes" (.text (hexText value))
  | .list items => .array (toTaggedItems items)
  | .tuple items => .array (toTaggedItems items)
  | .dict entries => taggedEntries (toTaggedEntries entries)
  | .date value => tag "$date" (.text (Calendar.isoDate value))
  | .datetime value => tag "$datetime" (.text (Calendar.isoDateTime "T" value))
  | other => tag "$type" (.text (Text.ofString other.className))

/-- The tagged document for each item. -/
def toTaggedItems : List Data → List Json
  | [] => []
  | item :: items => toTagged item :: toTaggedItems items

/-- The tagged documents for each key and value, with the key as it is if it is a text. -/
def toTaggedEntries : List (Data × Data) → List (Option Text × Json × Json)
  | [] => []
  | (key, value) :: entries => (key.text?, toTagged key, toTagged value) :: toTaggedEntries entries

end

end PageTemplates.Data
