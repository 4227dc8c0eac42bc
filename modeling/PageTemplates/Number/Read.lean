import PageTemplates.Number.Decimal
import PageTemplates.Text.Numeral
import PageTemplates.Text.Search

/-!
Numbers read from free text: blanks around, a sign, underscores between digits, digits of any
script, and for floating-point numbers the names of those that are not finite.
-/

namespace PageTemplates.Number

/-- The value of a digit or letter in bases up to thirty-six. -/
def digitIn? (base : Nat) (point : CodePoint) : Option Nat :=
  let value : Option Nat :=
    match Text.decimalValue? point.value with
    | some value => some value
    | none =>
      match point with
      | .scalar letter =>
        if 'a' ≤ letter && letter ≤ 'z' then some (letter.toNat - 87)
        else if 'A' ≤ letter && letter ≤ 'Z' then some (letter.toNat - 55)
        else none
      | .surrogate _ => none
  value.filter (· < base)

/-- Digits with single underscores between them, up to the end of the text. `fresh` says that a
digit has to come next. -/
def digitsWhole? (base : Nat) : (fresh : Bool) → (so : Nat) → Text → Option Nat
  | fresh, so, [] => if fresh then none else some so
  | fresh, so, point :: rest =>
    if point = .scalar '_' then if fresh then none else digitsWhole? base true so rest
    else
      match digitIn? base point with
      | some digit => digitsWhole? base false (so * base + digit) rest
      | none => none

/-- Takes a sign. -/
def takeSign : Text → Bool × Text
  | .scalar '-' :: rest => (true, rest)
  | .scalar '+' :: rest => (false, rest)
  | rest => (false, rest)

/-- Takes the mark of a base, where it is the right one; an underscore may follow the mark. -/
def takeBase (base : Nat) (text : Text) : Nat × Text :=
  let marked (rest : Text) : Text :=
    match rest with
    | .scalar '_' :: digits => digits
    | digits => digits
  match text with
  | .scalar '0' :: .scalar letter :: rest =>
    let kind := letter.toLower
    if kind == 'x' && (base == 16 || base == 0) then (16, marked rest)
    else if kind == 'o' && (base == 8 || base == 0) then (8, marked rest)
    else if kind == 'b' && (base == 2 || base == 0) then (2, marked rest)
    else (base, text)
  | _ => (base, text)

/-- Reads a whole number in a base; base zero goes by the mark in the text. -/
def readInt? (base : Nat) (text : Text) : Option Int :=
  let (negative, unsigned) := takeSign (Text.trim text)
  let (found, digits) := takeBase base unsigned
  let leadingZero := digits.head? == some (.scalar '0')
  let number :=
    if found == 0 then
      (digitsWhole? 10 true 0 digits).filter fun value => !(leadingZero && value != 0)
    else digitsWhole? found true 0 digits
  number.map fun value => if negative then -(Int.ofNat value) else Int.ofNat value

/-- Digits with single underscores between them at the start: their value, how many they are, and
the rest. -/
def takeDigits : (bound : Nat) → (so count : Nat) → Text → Nat × Nat × Text
  | 0, so, count, text => (so, count, text)
  | bound + 1, so, count, text =>
    match text with
    | .scalar '_' :: point :: rest =>
      match (if count == 0 then none else Text.decimalValue? point.value) with
      | some digit => takeDigits bound (so * 10 + digit) (count + 1) rest
      | none => (so, count, text)
    | point :: rest =>
      match Text.decimalValue? point.value with
      | some digit => takeDigits bound (so * 10 + digit) (count + 1) rest
      | none => (so, count, text)
    | [] => (so, count, text)

/-- Reads an exponent up to the end of the text. -/
def readExponent? : Text → Option Int
  | [] => some 0
  | .scalar letter :: rest =>
    if letter == 'e' || letter == 'E' then
      let (negative, digits) := takeSign rest
      let (value, count, after) := takeDigits digits.length 0 0 digits
      if count == 0 || !after.isEmpty then none
      else some (if negative then -(Int.ofNat value) else Int.ofNat value)
    else none
  | _ => none

/-- Reads a floating-point number. -/
def readFloat? (text : Text) : Option Float :=
  let (negative, unsigned) := takeSign (Text.trim text)
  let lowered := unsigned.map fun point =>
    match point with
    | .scalar letter => CodePoint.scalar letter.toLower
    | other => other
  if lowered == Text.ofString "inf" || lowered == Text.ofString "infinity" then
    some (infinity negative)
  else if lowered == Text.ofString "nan" then some notANumber
  else
    let (whole, wholeCount, afterWhole) := takeDigits unsigned.length 0 0 unsigned
    let (digits, fractionCount, afterFraction) := match afterWhole with
      | .scalar '.' :: rest =>
        let (value, count, after) := takeDigits rest.length 0 0 rest
        (whole * Nat.pow 10 count + value, count, after)
      | rest => (whole, 0, rest)
    if wholeCount + fractionCount == 0 then none
    else
      (readExponent? afterFraction).map fun exponent =>
        ofDecimal negative digits (exponent - Int.ofNat fractionCount)

end PageTemplates.Number
