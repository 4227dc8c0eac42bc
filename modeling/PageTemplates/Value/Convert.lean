import PageTemplates.Value.Arithmetic
import PageTemplates.Number.Read

/-!
Conversions of values to numbers, and rounding.
-/

namespace PageTemplates.Run

/-- A floating-point number cut off at the point. -/
def truncated (number : Float) : Run Int := do
  match Number.truncate? number with
  | some whole => return whole
  | none =>
    if number.isNaN then fail (.wrongValue "cannot convert float NaN to integer")
    else fail ⟨.overflow, "cannot convert float infinity to integer"⟩

/-- A text as a whole number in a base. -/
def textToInt (text : Text) (base : Nat) : Run Int := do
  if base == 1 || base > 36 then fail (.wrongValue "int() base must be >= 2 and <= 36, or 0")
  match Number.readInt? base text with
  | some number =>
    let digits := (text.filter fun point => Text.isDecimal point.value).length
    if digits > 4300 && [10, 0].contains base then
      fail (.wrongValue ("Exceeds the limit (4300 digits) for integer string conversion: value " ++
        "has " ++ Text.ofNat digits ++ " digits; use sys.set_int_max_str_digits() to increase " ++
        "the limit"))
    return number
  | none =>
    fail (.wrongValue ("invalid literal for int() with base " ++ Text.ofNat base ++ ": " ++
      Text.quoted text))

/-- A value as a whole number. -/
def toInt (value : Value) : Run Int := do
  match value with
  | .float number => truncated number
  | .bytes bytes => textToInt (bytes.map fun byte => .scalar (Char.ofNat byte.toNat)) 10
  | _ =>
    match value.int?, value.text? with
    | some number, _ => return number
    | _, some text => textToInt text 10
    | _, _ =>
      failIfUndefined value
      fail (.wrongType ("int() argument must be a string, a bytes-like object or a real number, " ++
        "not '" ++ (← className value) ++ "'"))

/-- A value as a floating-point number, read from its text. -/
def textToFloat (value : Value) (text : Text) : Run Float := do
  match Number.readFloat? text with
  | some number => return number
  | none => fail (.wrongValue ("could not convert string to float: " ++ (← quoted value)))

/-- A value as a floating-point number. -/
def toFloatValue (value : Value) : Run Float := do
  match value with
  | .float number => return number
  | .bytes bytes => textToFloat value (bytes.map fun byte => .scalar (Char.ofNat byte.toNat))
  | _ =>
    match value.int?, value.text? with
    | some number, _ => toFloat number
    | _, some text => textToFloat value text
    | _, _ =>
      failIfUndefined value
      fail (.wrongType ("float() argument must be a string or a real number, not '" ++
        (← className value) ++ "'"))

/-- A value as an index. -/
def toIndex (value : Value) : Run Int := do
  match value.int? with
  | some number => return number
  | none =>
    fail (.wrongType ("'" ++ (← className value) ++ "' object cannot be interpreted as an integer"))

/-- A value as a size or place: a whole number of no more than 64 bits. -/
def toSize (value : Value) : Run Int := do
  let number ← toIndex value
  if number < -Int.pow 2 63 || Int.pow 2 63 ≤ number then
    fail ⟨.overflow, "Python int too large to convert to C ssize_t"⟩
  return number

/-- Rounds a value to a number of decimal places; a whole number stays one. -/
def rounded (value : Value) (places : Int) : Run Value := do
  match value with
  | .float number =>
    match Number.roundPlaces? number places with
    | some result => return .float result
    | none => fail ⟨.overflow, "rounded value too large to represent"⟩
  | _ =>
    match value.int? with
    | some number =>
      if 0 ≤ places then return .int number
      else if number.natAbs.log2 + 1 < (-places).toNat then return .int 0
      else
        let unit := Nat.pow 10 (-places).toNat
        let size := Number.roundQuotient number.natAbs unit * unit
        return .int (if number < 0 then -(Int.ofNat size) else Int.ofNat size)
    | none =>
      fail (.wrongType ("type " ++ (← className value) ++ " doesn't define __round__ method"))

end PageTemplates.Run
