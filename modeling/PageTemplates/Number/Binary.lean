/-!
Binary floating-point numbers taken apart and put together exactly. A finite number is a whole
number times a power of two; every quotient of whole numbers has one nearest such number, and a
quotient half-way between two goes to the one with the even whole number.
-/

namespace PageTemplates.Number

/-- What a floating-point number is: no number, infinite, or a sign, a whole number and a power of
two. -/
inductive Parts where
  | undefined
  | infinite (negative : Bool)
  | finite (negative : Bool) (significand : Nat) (exponent : Int)

/-- The parts of a floating-point number. -/
def parts (number : Float) : Parts :=
  let bits := number.toBits.toNat
  let negative := bits / Nat.pow 2 63 == 1
  let exponent := bits / Nat.pow 2 52 % 2048
  let fraction := bits % Nat.pow 2 52
  if exponent == 2047 then
    if fraction == 0 then .infinite negative else .undefined
  else if exponent == 0 then .finite negative fraction (-1074)
  else .finite negative (Nat.pow 2 52 + fraction) (Int.ofNat exponent - 1075)

/-- The floating-point number of a sign, a significand below 2^53 and an exponent of two; the
significand is below 2^52 only with the least exponent. -/
def compose (negative : Bool) (significand : Nat) (exponent : Int) : Float :=
  let sign := if negative then Nat.pow 2 63 else 0
  let magnitude :=
    if significand < Nat.pow 2 52 then significand
    else (exponent + 1075).toNat * Nat.pow 2 52 + (significand - Nat.pow 2 52)
  Float.ofBits (UInt64.ofNat (sign + magnitude))

/-- The nearest whole number of a quotient; half-way cases go to the even neighbour. -/
def roundQuotient (numerator denominator : Nat) : Nat :=
  let quotient := numerator / denominator
  let twice := 2 * (numerator % denominator)
  if twice < denominator then quotient
  else if denominator < twice then quotient + 1
  else quotient + quotient % 2

/-- The nearest floating-point number of a quotient, if it is in range. -/
def ofQuotient? (negative : Bool) (numerator denominator : Nat) : Option Float :=
  if numerator == 0 then some (compose negative 0 (-1074))
  else
    let scale : Int := Int.ofNat (Nat.log2 numerator) - Int.ofNat (Nat.log2 denominator)
    let quotientAt (exponent : Int) : Nat :=
      if 0 ≤ exponent then roundQuotient numerator (denominator * Nat.pow 2 exponent.toNat)
      else roundQuotient (numerator * Nat.pow 2 (-exponent).toNat) denominator
    let atLeast (exponent : Int) : Int := max exponent (-1074)
    let first := atLeast (scale - 53)
    let exponent := if Nat.pow 2 53 ≤ quotientAt first then first + 1 else first
    let significand := quotientAt exponent
    let (significand, exponent) :=
      if significand == Nat.pow 2 53 then (Nat.pow 2 52, exponent + 1) else (significand, exponent)
    if 971 < exponent then none else some (compose negative significand exponent)

/-- Positive and negative infinity. -/
def infinity (negative : Bool) : Float :=
  Float.ofBits (if negative then 0xFFF0000000000000 else 0x7FF0000000000000)

/-- The value that is no number. -/
def notANumber : Float := Float.ofBits 0x7FF8000000000000

/-- Whether a number is infinite. -/
def isInfinite (number : Float) : Bool :=
  match parts number with
  | .infinite _ => true
  | _ => false

/-- Whether the sign bit is set. -/
def signBit (number : Float) : Bool := number.toBits.toNat / Nat.pow 2 63 == 1

/-- The nearest floating-point number of a whole number, if it is in range. -/
def ofInt? (number : Int) : Option Float := ofQuotient? (number < 0) number.natAbs 1

/-- A finite number as a signed quotient of whole numbers. -/
def asQuotient? (number : Float) : Option (Int × Nat) :=
  match parts number with
  | .finite negative significand exponent =>
    let sign : Int := if negative then -1 else 1
    if 0 ≤ exponent then some (sign * (significand * Nat.pow 2 exponent.toNat : Nat), 1)
    else some (sign * (significand : Nat), Nat.pow 2 (-exponent).toNat)
  | _ => none

/-- A finite number cut off at the point. -/
def truncate? (number : Float) : Option Int :=
  (asQuotient? number).map fun (numerator, denominator) => Int.tdiv numerator denominator

/-- The order of a finite number and a whole number, exactly. -/
def compareQuotient (first : Int × Nat) (second : Int × Nat) : Ordering :=
  compare (first.1 * second.2) (second.1 * first.2)

/-- The remainder of a division with the sign of the dividend, which is exact. The divisor is not
zero. -/
def cutRemainder (first second : Float) : Float :=
  match asQuotient? first, asQuotient? second with
  | some (numerator, denominator), some (divisor, unit) =>
    if divisor == 0 then notANumber
    else
      let rest := Int.tmod (numerator * unit) (divisor * denominator)
      if rest == 0 then compose (signBit first) 0 (-1074)
      else (ofQuotient? (rest < 0) rest.natAbs (denominator * unit)).getD 0
  | some _, none => if second.isNaN then notANumber else first
  | none, _ => notANumber

/-- The remainder of a division with the sign of the divisor, rounded only once where the sign has
to be changed. The divisor is not zero. -/
def remainder (first second : Float) : Float :=
  let rest := cutRemainder first second
  if rest == 0 then compose (signBit second) 0 (-1074)
  else if (second < 0) != (rest < 0) then rest + second
  else rest

/-- The quotient rounded down, as a floating-point number. The divisor is not zero. -/
def floorQuotient (first second : Float) : Float :=
  let rest := cutRemainder first second
  let quotient := (first - rest) / second
  let quotient := if !(rest == 0) && (second < 0) != (rest < 0) then quotient - 1 else quotient
  if quotient == 0 then compose (signBit first != signBit second) 0 (-1074)
  else
    let down := quotient.floor
    if quotient - down > 0.5 then down + 1 else down

end PageTemplates.Number
