import PageTemplates.Text
import PageTemplates.Number.Binary

/-!
Decimal forms of floating-point numbers: the shortest one that reads back as the same number, those
with a given number of places, and the reading of a decimal numeral.
-/

namespace PageTemplates.Number

/-- A positive decimal: the digits as a whole number, times a power of ten. -/
structure Decimal where
  digits : Nat
  exponent : Int
  deriving DecidableEq, Repr

/-- How many decimal digits a number has; zero has one. -/
def digitCount (number : Nat) : Nat := (Nat.toDigits 10 number).length

/-- The least power of ten that brings a proper fraction to one or above. -/
def leadingZeros (numerator denominator : Nat) : (bound raised : Nat) → Nat
  | 0, raised => raised
  | bound + 1, raised =>
    if denominator ≤ numerator * Nat.pow 10 raised then raised
    else leadingZeros numerator denominator bound (raised + 1)

/-- The place of the point: `k` with 10^(k-1) ≤ value < 10^k. -/
def pointPlace (numerator denominator : Nat) : Int :=
  if denominator ≤ numerator then Int.ofNat (digitCount (numerator / denominator))
  else 1 - Int.ofNat (leadingZeros numerator denominator 400 1)

/-- Drops zeros from the end of the digits. -/
def dropZeros : (bound : Nat) → Decimal → Decimal
  | 0, decimal => decimal
  | bound + 1, decimal =>
    if decimal.digits != 0 && decimal.digits % 10 == 0 then
      dropZeros bound ⟨decimal.digits / 10, decimal.exponent + 1⟩
    else decimal

/-- Powers of ten above and below the fraction line. -/
def tenPower (exponent : Int) : Nat × Nat :=
  if 0 ≤ exponent then (Nat.pow 10 exponent.toNat, 1) else (1, Nat.pow 10 (-exponent).toNat)

/-- The point of the grid with `count` digits that lies in the interval of the reals that round to
the number, the nearer of two. All arguments are over `denominator`. -/
def gridPoint? (value below above denominator : Nat) (ends : Bool) (place : Int)
    (count : Nat) : Option Decimal :=
  let exponent := place - count
  let (up, down) := tenPower exponent
  let unit := denominator * up
  let low := value * down / unit
  let inside (candidate : Nat) : Bool :=
    let scaled := candidate * unit
    let least := (value - below) * down
    let greatest := (value + above) * down
    if ends then least ≤ scaled && scaled ≤ greatest else least < scaled && scaled < greatest
  let distanceLow := value * down - low * unit
  let distanceHigh := (low + 1) * unit - value * down
  match inside low, inside (low + 1) with
  | true, true =>
    if distanceLow < distanceHigh || (distanceLow == distanceHigh && low % 2 == 0) then
      some ⟨low, exponent⟩
    else some ⟨low + 1, exponent⟩
  | true, false => some ⟨low, exponent⟩
  | false, true => some ⟨low + 1, exponent⟩
  | false, false => none

/-- Tries more and more digits. -/
def firstGrid (value below above denominator : Nat) (ends : Bool) (place : Int) :
    (bound count : Nat) → Decimal
  | 0, count => ⟨value / denominator, count⟩
  | bound + 1, count =>
    match gridPoint? value below above denominator ends place count with
    | some decimal => decimal
    | none => firstGrid value below above denominator ends place bound (count + 1)

/-- The shortest decimal of a positive significand times a power of two. -/
def shortest (significand : Nat) (exponent : Int) : Decimal :=
  let up := Nat.pow 2 exponent.toNat
  let denominator := 4 * Nat.pow 2 (-exponent).toNat
  let value := 4 * significand * up
  let above := 2 * up
  let below := if significand == Nat.pow 2 52 && -1074 < exponent then up else 2 * up
  dropZeros 20 (firstGrid value below above denominator (significand % 2 == 0)
    (pointPlace value denominator) 18 1)

/-- The digits of a decimal as characters, and the place of the point relative to their start. -/
def Decimal.layout (decimal : Decimal) : List Char × Int :=
  let digits := Nat.toDigits 10 decimal.digits
  (digits, decimal.exponent + Int.ofNat digits.length)

/-- Zeros. -/
def zeros (count : Nat) : List Char := List.replicate count '0'

/-- Digits with a point at a place; a point only where digits follow it. -/
def positional (digits : List Char) (place : Int) : List Char × List Char :=
  if place ≤ 0 then (['0'], zeros (-place).toNat ++ digits)
  else
    let count := place.toNat
    (digits.take count ++ zeros (count - digits.length), digits.drop count)

/-- An exponent with its sign and at least two digits. -/
def exponentText (exponent : Int) : List Char :=
  let digits := Nat.toDigits 10 exponent.natAbs
  (if exponent < 0 then '-' else '+') :: (zeros (2 - digits.length) ++ digits)

/-- How a number is written by default: the shortest digits, positional while the point stands at
most four zeros before the digits and at most sixteen digits to the right, always with a place. -/
def shown (number : Float) : List Char :=
  match parts number with
  | .undefined => ['n', 'a', 'n']
  | .infinite negative => if negative then ['-', 'i', 'n', 'f'] else ['i', 'n', 'f']
  | .finite negative significand exponent =>
    let sign := if negative then ['-'] else []
    if significand == 0 then sign ++ ['0', '.', '0']
    else
      let (digits, place) := (shortest significand exponent).layout
      if -4 < place && place ≤ 16 then
        let (whole, fraction) := positional digits place
        sign ++ whole ++ '.' :: (if fraction.isEmpty then ['0'] else fraction)
      else
        let mantissa := match digits with
          | [] => []
          | [digit] => [digit]
          | digit :: rest => digit :: '.' :: rest
        sign ++ mantissa ++ 'e' :: exponentText (place - 1)

/-- A magnitude rounded to a number of decimal places, as a whole number of units of the last
place. -/
def atPlaces (numerator denominator : Nat) (places : Int) : Nat :=
  let (up, down) := tenPower places
  roundQuotient (numerator * up) (denominator * down)

/-- Rounds to a number of decimal places, half-way cases to the even digit. -/
def roundPlaces? (number : Float) (places : Int) : Option Float :=
  match parts number with
  | .finite negative _ _ =>
    if places > 350 then some number
    else if places < -350 then some (compose negative 0 (-1074))
    else
      match asQuotient? number with
      | some (numerator, denominator) =>
        let units := atPlaces numerator.natAbs denominator places
        let (up, down) := tenPower places
        ofQuotient? negative (units * down) up
      | none => some number
  | _ => some number

/-- Decimal digits with `places` digits after the point. -/
def fixedDigits (numerator denominator : Nat) (places : Nat) : List Char × List Char :=
  let digits := Nat.toDigits 10 (atPlaces numerator denominator places)
  let padded := zeros (places + 1 - digits.length) ++ digits
  (padded.take (padded.length - places), padded.drop (padded.length - places))

/-- The first `count` significant digits of a positive quotient, rounded, and the exponent of the
first of them. -/
def significantDigits (numerator denominator : Nat) (count : Nat) : List Char × Int :=
  if numerator == 0 then (zeros count, 0)
  else
    let place := pointPlace numerator denominator
    let units := atPlaces numerator denominator (Int.ofNat count - place)
    let digits := Nat.toDigits 10 units
    if count < digits.length then (digits.take count, place) else (digits, place - 1)

/-- The nearest number of a decimal numeral; beyond the range it is infinite. -/
def ofDecimal (negative : Bool) (digits : Nat) (exponent : Int) : Float :=
  if digits == 0 then compose negative 0 (-1074)
  else if exponent > 400 then infinity negative
  else if exponent + Int.ofNat (digitCount digits) < -400 then compose negative 0 (-1074)
  else
    let (up, down) := tenPower exponent
    (ofQuotient? negative (digits * up) down).getD (infinity negative)

end PageTemplates.Number
