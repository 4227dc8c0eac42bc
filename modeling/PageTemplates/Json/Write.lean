import PageTemplates.Json
import PageTemplates.Text.Quoted
import PageTemplates.Number.Decimal

/-!
Writing a JSON document in ASCII. Every other character is written as an escape, beyond the basic
plane as a pair of escapes. A document is written on one line, or with each item on a line of its
own under a unit of indentation.
-/

namespace PageTemplates.Json

/-- A unicode escape of four digits. -/
def unicodeEscape (number : Nat) : Text := "\\u" ++ Text.ofChars (Text.hexDigits 4 number)

/-- One code point inside a written text. -/
def writePoint (point : CodePoint) : Text :=
  match point with
  | .scalar '"' => "\\\""
  | .scalar '\\' => "\\\\"
  | .scalar '\n' => "\\n"
  | .scalar '\r' => "\\r"
  | .scalar '\t' => "\\t"
  | .scalar '\x0c' => "\\f"
  | .scalar '\x08' => "\\b"
  | _ =>
    let number := point.value
    if 0x20 ≤ number && number ≤ 0x7E then [point]
    else if number < 0x10000 then unicodeEscape number
    else
      unicodeEscape (0xD800 + (number - 0x10000) / 0x400) ++
        unicodeEscape (0xDC00 + (number - 0x10000) % 0x400)

/-- A text between double quotes. -/
def writeText (text : Text) : Text :=
  .scalar '"' :: text.flatMap writePoint ++ [.scalar '"']

/-- A floating-point number, those that are not finite by their names. -/
def writeFloat (number : Float) : Text :=
  match Number.parts number with
  | .undefined => "NaN"
  | .infinite negative => if negative then "-Infinity" else "Infinity"
  | .finite _ _ _ => Text.ofChars (Number.shown number)

/-- How items are set apart: all on one line, or each on a line of its own, indented by the unit
once for each level. -/
inductive Layout where
  | line
  | indented (unit : Text)

/-- What stands before an item at a level: a new line with its indentation, or nothing. -/
def Layout.break : Layout → (level : Nat) → Text
  | .line, _ => []
  | .indented unit, level => .scalar '\n' :: Text.repeated level unit

/-- What stands between two items. -/
def Layout.between : Layout → (level : Nat) → Text
  | .line, _ => ", "
  | layout, level => .scalar ',' :: layout.break level

mutual

/-- A document at a level of nesting. -/
def writeAt (layout : Layout) (level : Nat) : Json → Text
  | .null => "null"
  | .bool value => if value then "true" else "false"
  | .int value => Text.ofInt value
  | .float value => writeFloat value
  | .text value => writeText value
  | .array [] => "[]"
  | .array (item :: items) =>
    "[" ++ layout.break (level + 1) ++ writeAt layout (level + 1) item ++
      writeItems layout (level + 1) items ++ layout.break level ++ "]"
  | .object [] => "\x7b\x7d"
  | .object ((name, value) :: members) =>
    "\x7b" ++ layout.break (level + 1) ++ writeText name ++ ": " ++
      writeAt layout (level + 1) value ++ writeMembers layout (level + 1) members ++
      layout.break level ++ "\x7d"

/-- The items after the first one. -/
def writeItems (layout : Layout) (level : Nat) : List Json → Text
  | [] => []
  | item :: items => layout.between level ++ writeAt layout level item ++
      writeItems layout level items

/-- The members after the first one. -/
def writeMembers (layout : Layout) (level : Nat) : List (Text × Json) → Text
  | [] => []
  | (name, value) :: members =>
    layout.between level ++ writeText name ++ ": " ++ writeAt layout level value ++
      writeMembers layout level members

end

/-- A document on one line. -/
def write (document : Json) : Text := writeAt .line 0 document

end PageTemplates.Json
