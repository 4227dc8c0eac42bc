import PageTemplates.Text.Utf8
import PageTemplates.Calendar
import PageTemplates.Number.Decimal
import PageTemplates.Json

/-!
Data: what payloads, configuration and function arguments are made of before a render takes them.
Data has no identity and is never changed; equality, truth and the two printed forms are functions
of its structure.
-/

namespace PageTemplates

/-- A piece of data. `mapping` is a read-only mapping, `object` a record of attributes, `sealed` an
object without attributes, and `explosive` one whose attribute and whose text fail. -/
inductive Data where
  | none
  | bool (value : Bool)
  | int (value : Int)
  | float (value : Float)
  | text (value : Text)
  | markup (value : Text)
  | bytes (value : Bytes)
  | list (items : List Data)
  | tuple (items : List Data)
  | set (items : List Data)
  | dict (entries : List (Data × Data))
  | mapping (entries : List (Data × Data))
  | object (attributes : List (Text × Data))
  | date (value : Date)
  | datetime (value : DateTime)
  | sealed
  | explosive
  deriving Inhabited

namespace Data

mutual

/-- The data of a JSON document. -/
def ofJson : Json → Data
  | .null => .none
  | .bool value => .bool value
  | .int value => .int value
  | .float value => .float value
  | .text value => .text value
  | .array items => .list (ofItems items)
  | .object members => .dict (ofMembers members)

/-- The data of each item. -/
def ofItems : List Json → List Data
  | [] => []
  | item :: items => ofJson item :: ofItems items

/-- The entries of an object. -/
def ofMembers : List (Text × Json) → List (Data × Data)
  | [] => []
  | (name, value) :: members => (.text name, ofJson value) :: ofMembers members

end

/-- Truth: nothing, zero and what is empty are false. -/
def truth : Data → Bool
  | .none => false
  | .bool value => value
  | .int value => value != 0
  | .float value => value != 0
  | .text value => !value.isEmpty
  | .markup value => !value.isEmpty
  | .bytes value => !value.isEmpty
  | .list items => !items.isEmpty
  | .tuple items => !items.isEmpty
  | .set items => !items.isEmpty
  | .dict entries => !entries.isEmpty
  | .mapping entries => !entries.isEmpty
  | _ => true

/-- The name of the class a piece of data belongs to. -/
def className : Data → String
  | .none => "NoneType"
  | .bool _ => "bool"
  | .int _ => "int"
  | .float _ => "float"
  | .text _ => "str"
  | .markup _ => "Markup"
  | .bytes _ => "bytes"
  | .list _ => "list"
  | .tuple _ => "tuple"
  | .set _ => "set"
  | .dict _ => "dict"
  | .mapping _ => "mappingproxy"
  | .object _ => "SimpleNamespace"
  | .date _ => "date"
  | .datetime _ => "datetime"
  | .sealed => "Opaque"
  | .explosive => "Explosive"

/-- The name of the class a piece of data belongs to, with the module of some classes. -/
def typeName : Data → String
  | .object _ => "types.SimpleNamespace"
  | .date _ => "datetime.date"
  | .datetime _ => "datetime.datetime"
  | other => other.className

/-- The content of a text or of markup. -/
def text? : Data → Option Text
  | .text value => some value
  | .markup value => some value
  | _ => Option.none

/-- Texts between an opening and a closing one, with commas. -/
def enclosed (opening : Text) (parts : List Text) (closing : Text) : Text :=
  opening ++ Text.join ", " parts ++ closing

/-- The items of a tuple: a single one is followed by a comma. -/
def enclosedTuple (parts : List Text) : Text :=
  match parts with
  | [part] => "(" ++ part ++ ",)"
  | _ => enclosed "(" parts ")"

/-- The quoted form of a date. -/
def quotedDate (date : Date) : Text :=
  enclosed "datetime.date(" [Text.ofNat date.year, Text.ofNat date.month, Text.ofNat date.day] ")"

/-- The quoted form of a span of seconds. -/
def quotedSpan (seconds : Int) : Text :=
  let days := Int.fdiv seconds 86400
  let rest := Int.fmod seconds 86400
  let parts := (if days == 0 then [] else ["days=" ++ Text.ofInt days]) ++
    (if rest == 0 then [] else ["seconds=" ++ Text.ofInt rest])
  enclosed "datetime.timedelta(" parts ")"

/-- The quoted form of an offset from universal time. -/
def quotedOffset (offset : Int) : Text :=
  if offset == 0 then "datetime.timezone.utc"
  else "datetime.timezone(" ++ quotedSpan offset ++ ")"

/-- The quoted form of a date and time: seconds and microseconds only where they are not zero. -/
def quotedDateTime (time : DateTime) : Text :=
  let seconds :=
    if time.microsecond != 0 then [time.second, time.microsecond]
    else if time.second != 0 then [time.second] else []
  let numbers :=
    [time.date.year, time.date.month, time.date.day, time.hour, time.minute] ++ seconds
  let offset := match time.offset with
    | some offset => ["tzinfo=" ++ quotedOffset offset]
    | Option.none => []
  enclosed "datetime.datetime(" (numbers.map Text.ofNat ++ offset) ")"

mutual

/-- The quoted form: how a piece of data is shown inside other data and in messages. -/
def quoted : Data → Text
  | .none => "None"
  | .bool value => if value then "True" else "False"
  | .int value => Text.ofInt value
  | .float value => Text.ofChars (Number.shown value)
  | .text value => Text.quoted value
  | .markup value => "Markup(" ++ Text.quoted value ++ ")"
  | .bytes value => Text.quotedBytes value
  | .list items => enclosed "[" (quotedItems items) "]"
  | .tuple items => enclosedTuple (quotedItems items)
  | .set items => if items.isEmpty then "set()" else enclosed "\x7b" (quotedItems items) "\x7d"
  | .dict entries => enclosed "\x7b" (quotedEntries entries) "\x7d"
  | .mapping entries => enclosed "mappingproxy(\x7b" (quotedEntries entries) "\x7d)"
  | .object attributes => enclosed "namespace(" (quotedAttributes attributes) ")"
  | .date value => quotedDate value
  | .datetime value => quotedDateTime value
  | .sealed => "<opaque>"
  | .explosive => "<explosive>"

/-- The quoted form of each item. -/
def quotedItems : List Data → List Text
  | [] => []
  | item :: items => quoted item :: quotedItems items

/-- Key and value of each entry with a colon between them. -/
def quotedEntries : List (Data × Data) → List Text
  | [] => []
  | (key, value) :: entries => (quoted key ++ ": " ++ quoted value) :: quotedEntries entries

/-- Name and value of each attribute with an equals sign between them. -/
def quotedAttributes : List (Text × Data) → List Text
  | [] => []
  | (name, value) :: attributes => (name ++ "=" ++ quoted value) :: quotedAttributes attributes

end

/-- The plain form: a text stands as it is, a read-only mapping as the entries it shows, a time in
its ISO form, all else as quoted. -/
def plain : Data → Text
  | .text value => value
  | .markup value => value
  | .mapping entries => enclosed "\x7b" (quotedEntries entries) "\x7d"
  | .date value => Calendar.isoDate value
  | .datetime value => Calendar.isoDateTime " " value
  | other => quoted other

end Data

end PageTemplates
